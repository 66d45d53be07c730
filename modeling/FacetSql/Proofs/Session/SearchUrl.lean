import FacetSql.Session
import FacetSql.Sql.Parser
import FacetSql.Query.Plan
import FacetSql.Proofs.Session.Address
/-!
# SearchUrl — where a search is posted to

The name of an index is put between the address of the engine and the search as it is written.  Read as an address,
this is the search of one index only if the name is one segment of a path that stands for itself; with other names a
query is posted elsewhere, and any text can be a name.
-/
namespace FacetSql

open Address

namespace Session

/-- **The search of an index, and of nothing else**: the path is that of the engine up to slashes at its end, one
segment that stands for the name, and the search. -/
def SearchesIndex (s : Session) (base : Address) (index : String) : Prop :=
  ∃ url, Address.read (s.searchUrl index) = some url ∧ url.scheme = base.scheme ∧ url.authority = base.authority ∧
    (∃ path slashes segment, base.path = path ++ List.replicate slashes [] ∧
      url.path = path ++ [segment, "_search".toList] ∧ decoded segment = bytes index.toList) ∧
    url.query = some "typed_keys=true".toList

/-- **A name that is one segment of a path and stands for itself.** -/
structure PlainName (name : String) : Prop where
  chars : ∀ c ∈ name.toList, isLeftOut c = false ∧ isSlash c = false ∧ endsPath c = false
  noEscape : hasEscape name.toList = false
  noDots : isDot name.toList = false ∧ isDotDot name.toList = false

/-- What stands behind the name of an index. -/
def searchSuffix : List Char := "/_search?typed_keys=true".toList

theorem exists_dropEndWhile (c : Char) (cs : List Char) :
    ∃ n, cs = Text.dropEndWhile (· == c) cs ++ List.replicate n c := by
  have hall : ∀ d ∈ cs.reverse.takeWhile (· == c), d = c := by
    intro d hd
    have heq := List.mem_takeWhile_imp hd
    exact beq_iff_eq.1 heq
  refine ⟨(cs.reverse.takeWhile (· == c)).length, ?_⟩
  have hrev : cs.reverse = List.replicate (cs.reverse.takeWhile (· == c)).length c ++ cs.reverse.dropWhile (· == c) := by
    rw [← List.eq_replicate_of_mem hall, List.takeWhile_append_dropWhile]
  have hcs := congrArg List.reverse hrev
  rwa [List.reverse_reverse, List.reverse_append, List.reverse_replicate] at hcs

theorem toList_searchUrl (s : Session) (index : String) :
    (s.searchUrl index).toList =
      Text.dropEndWhile (· == '/') s.endpoint.toList ++ '/' :: (index.toList ++ searchSuffix) := by
  have hslash : "/".toList = ['/'] := rfl
  unfold searchUrl Text.trimEnd searchSuffix
  simp only [String.toList_append, String.toList_ofList, hslash, List.append_assoc, List.cons_append, List.nil_append]

/-- Slashes at the end stand behind the authority. -/
theorem exists_of_append_slashes {front scheme authority cs rest : List Char} (hopens : Opens front scheme authority)
    {n : Nat} (h : cs ++ List.replicate n '/' = front ++ rest) :
    ∃ path, cs = front ++ path ∧ rest = path ++ List.replicate n '/' := by
  rcases List.append_eq_append_iff.1 h with ⟨beyond, hfront, hslashes⟩ | ⟨path, hcs, hrest⟩
  · have hbeyond : beyond = [] := by
      by_contra hne
      obtain ⟨c, hc⟩ := Option.isSome_iff_exists.1 (List.getLast?_isSome.2 hne)
      have hmem : c ∈ List.replicate n '/' := hslashes ▸ List.mem_append_left _ (List.mem_of_getLast? hc)
      have hlast : front.getLast? = some c := by rw [hfront, getLast?_append_of_ne_nil _ hne, hc]
      have hin := hopens.getLast hlast
      rw [List.eq_of_mem_replicate hmem] at hin
      cases hin
    subst hbeyond
    exact ⟨[], by rw [hfront, List.append_nil, List.append_nil], by rw [hslashes, List.nil_append, List.nil_append]⟩
  · exact ⟨path, hcs, hrest⟩

/-- **What is posted to**, over an engine without query and fragment: its path is written in front of every name. -/
theorem exists_read_searchUrl {s : Session} {base : Address} (hread : Address.read s.endpoint = some base)
    (hquery : base.query = none) (hfragment : base.fragment = none) :
    ∃ segments slashes, base.path = segments.foldl step [] ++ List.replicate slashes [] ∧
      ∀ index, Address.read (s.searchUrl index) = some ⟨base.scheme, base.authority,
        resolved (segments ++
          ((kept index.toList ++ searchSuffix).takeWhile (fun c => !endsPath c)).splitOnP isSlash),
        queryOf (kept index.toList ++ searchSuffix), fragmentOf (kept index.toList ++ searchSuffix)⟩ := by
  obtain ⟨front, scheme, rest, hopens, hkept, hhead, hbase⟩ := exists_opens_of_read hread
  rw [hbase] at hquery hfragment
  obtain ⟨n, hn⟩ := exists_dropEndWhile '/' s.endpoint.toList
  have hslashes : kept s.endpoint.toList =
      kept (Text.dropEndWhile (· == '/') s.endpoint.toList) ++ List.replicate n '/' := by
    have hall : kept (List.replicate n '/') = List.replicate n '/' := List.filter_replicate_of_pos rfl
    rw [← hall, kept, kept, kept, ← List.filter_append, ← hn]
  obtain ⟨path, hfront, rfl⟩ := exists_of_append_slashes hopens (hslashes.symm.trans hkept)
  have hplain : ∀ c ∈ path, endsPath c = false :=
    fun c hc => endsPath_of_queryOf hquery hfragment c (List.mem_append_left _ hc)
  obtain ⟨segments, slashes, hpath, hurl⟩ := exists_pathOf_append hplain n
  refine ⟨segments, slashes, ?_, fun index => ?_⟩
  · rw [hbase]
    exact hpath
  · have hkeep : kept (s.searchUrl index).toList = front ++ (path ++ '/' :: (kept index.toList ++ searchSuffix)) := by
      have hsuffix : kept searchSuffix = searchSuffix := by decide
      rw [toList_searchUrl, kept, List.filter_append, List.filter_cons_of_pos rfl, List.filter_append]
      change kept _ ++ '/' :: (kept _ ++ kept searchSuffix) = _
      rw [hfront, hsuffix, List.append_assoc]
    have hbehind : ∀ c ∈ (path ++ '/' :: (kept index.toList ++ searchSuffix)).head?, inAuthority c = false := by
      cases path with
      | nil => exact fun c hc => by cases hc; rfl
      | cons d path => exact hhead
    have hend : (s.searchUrl index).toList.getLast?.any (· ≤ ' ') = false := by
      have hlast : searchSuffix.getLast? = some 'e' := by decide
      rw [toList_searchUrl, getLast?_append_of_ne_nil _ (List.cons_ne_nil _ _), ← List.cons_append,
        getLast?_append_of_ne_nil _ (by decide), hlast]
      decide
    have hfrontPlain : ∀ c ∈ path ++ ['/'], endsPath c = false := by
      intro c hc
      rcases List.mem_append.1 hc with hc | hc
      · exact hplain c hc
      · rw [List.mem_singleton.1 hc]
        rfl
    obtain ⟨hqueryOf, hfragmentOf⟩ := queryOf_append hfrontPlain (kept index.toList ++ searchSuffix)
    rw [List.append_assoc, List.singleton_append] at hqueryOf hfragmentOf
    rw [read_of_opens hopens hkeep hbehind hend, hurl, hqueryOf, hfragmentOf, hbase]

/-- A segment behind the path of an engine is empty, or it is one of those that were put there. -/
theorem segment_of_path {front path segments : List (List Char)} {slashes k : Nat} {segment : List Char}
    (hbase : front.foldl step [] ++ List.replicate k [] = path ++ List.replicate slashes [])
    (hget : ((front ++ segments).foldl step [])[path.length]? = some segment) :
    segment = [] ∨ (segment ∈ segments ∧ isDot segment = false ∧ isDotDot segment = false) := by
  rw [List.foldl_append] at hget
  refine (getElem?_foldl_step hget).imp_left (fun hfront => ?_)
  -- the two paths differ in slashes at their ends only
  have hin : (path ++ List.replicate slashes [])[path.length]? = some segment := by
    obtain ⟨hlt, -⟩ := List.getElem?_eq_some_iff.1 hfront
    rw [← hbase, List.getElem?_append_left hlt, hfront]
  rw [List.getElem?_append_right (Nat.le_refl _)] at hin
  exact List.eq_of_mem_replicate (List.mem_of_getElem? hin)

theorem kept_eq_self {cs : List Char} (h : ∀ c ∈ cs, isLeftOut c = false) : kept cs = cs :=
  List.filter_eq_self.2 (fun c hc => by rw [h c hc]; rfl)

/-- Up to a query or fragment in the name, the path goes on to the search. -/
theorem takeWhile_searchSuffix {cs : List Char} (h : ∀ c ∈ cs, endsPath c = false) :
    (cs ++ searchSuffix).takeWhile (fun c => !endsPath c) = cs ++ '/' :: "_search".toList := by
  have hkeep : ∀ c ∈ cs, (!endsPath c) = true := fun c hc => by rw [h c hc]; rfl
  have hsuffix : searchSuffix.takeWhile (fun c => !endsPath c) = '/' :: "_search".toList := by decide
  rw [List.takeWhile_append_of_pos hkeep, hsuffix]

theorem isDot_search : isDot "_search".toList = false := by decide

theorem isDotDot_search : isDotDot "_search".toList = false := by decide

section

variable {s : Session} {base : Address} {index : String}

theorem searchesIndex_of_plainName (hread : Address.read s.endpoint = some base) (hquery : base.query = none)
    (hfragment : base.fragment = none) (hplain : PlainName index) : s.SearchesIndex base index := by
  obtain ⟨segments, slashes, hpath, hurl⟩ := exists_read_searchUrl hread hquery hfragment
  have hkept : kept index.toList = index.toList := kept_eq_self (fun c hc => (hplain.chars c hc).1)
  have hends : ∀ c ∈ index.toList, endsPath c = false := fun c hc => (hplain.chars c hc).2.2
  have hsegment : index.toList.splitOnP isSlash = [index.toList] :=
    List.splitOnP_eq_singleton (fun c hc => (hplain.chars c hc).2.1)
  have hsearch : ("_search".toList).splitOnP isSlash = ["_search".toList] := by decide
  have hdecoded : decoded index.toList = bytes index.toList := by
    rcases decoded_cases index.toList with ⟨-, heq⟩ | ⟨hyes, -⟩
    · exact heq
    · rw [hplain.noEscape] at hyes
      cases hyes
  refine ⟨_, hurl index, rfl, rfl, ⟨segments.foldl step [], slashes, index.toList, hpath, ?_, hdecoded⟩, ?_⟩
  · rw [hkept, takeWhile_searchSuffix hends, List.splitOnP_append_cons _ _ rfl, hsegment, hsearch, ← List.append_assoc,
      resolved_concat isDot_search isDotDot_search, List.foldl_append, List.foldl_cons, List.foldl_nil,
      step_of_not_dots hplain.noDots.1 hplain.noDots.2, List.append_assoc, List.singleton_append]
  · have hquerySuffix : queryOf searchSuffix = some "typed_keys=true".toList := by decide
    rw [hkept, (queryOf_append hends searchSuffix).1, hquerySuffix]

/-- **The segment behind the path of an engine is a part of the name**, with neither slashes nor the start of a query or
fragment in it. -/
theorem part_of_segment {segments path : List (List Char)} {slashes k : Nat} {segment : List Char}
    (hbase : segments.foldl step [] ++ List.replicate k [] = path ++ List.replicate slashes [])
    (hurl : resolved (segments ++ ((kept index.toList ++ searchSuffix).takeWhile (fun c => !endsPath c)).splitOnP isSlash)
      = path ++ [segment, "_search".toList]) :
    segment = [] ∨ (segment.Sublist (kept index.toList) ∧ (∀ c ∈ segment, isSlash c = false ∧ endsPath c = false) ∧
      isDot segment = false ∧ isDotDot segment = false) := by
  by_cases hends : ∀ c ∈ kept index.toList, endsPath c = false
  · have hsearch : ("_search".toList).splitOnP isSlash = ["_search".toList] := by decide
    rw [takeWhile_searchSuffix hends, List.splitOnP_append_cons _ _ rfl, hsearch, ← List.append_assoc,
      resolved_concat isDot_search isDotDot_search, List.append_cons path] at hurl
    have hpath := (List.append_inj' hurl rfl).1
    have hget : ((segments ++ (kept index.toList).splitOnP isSlash).foldl step [])[path.length]? = some segment := by
      rw [hpath, List.getElem?_append_right (Nat.le_refl _), Nat.sub_self]
      rfl
    refine (segment_of_path hbase hget).imp_right (fun ⟨hmem, hdots⟩ => ?_)
    obtain ⟨hsub, hslash⟩ := of_mem_splitOnP hmem
    exact ⟨hsub, fun c hc => ⟨hslash c hc, hends c (hsub.subset hc)⟩, hdots⟩
  · -- the path ends inside the name
    have hinside : (kept index.toList ++ searchSuffix).takeWhile (fun c => !endsPath c) =
        (kept index.toList).takeWhile (fun c => !endsPath c) := by
      rw [List.takeWhile_append, if_neg]
      intro hlen
      have hall := List.takeWhile_eq_self_iff.1 ((List.takeWhile_sublist _).eq_of_length hlen)
      exact hends (fun c hc => by simpa using hall c hc)
    have hget : (resolved (segments ++
        ((kept index.toList).takeWhile (fun c => !endsPath c)).splitOnP isSlash))[path.length]? = some segment := by
      rw [← hinside, hurl, List.getElem?_append_right (Nat.le_refl _), Nat.sub_self]
      rfl
    rcases getElem?_resolved hget with hnil | hget
    · exact .inl hnil
    refine (segment_of_path hbase hget).imp_right (fun ⟨hmem, hdots⟩ => ?_)
    obtain ⟨hsub, hslash⟩ := of_mem_splitOnP hmem
    refine ⟨hsub.trans (List.takeWhile_sublist _), fun c hc => ⟨hslash c hc, ?_⟩, hdots⟩
    have hkeep := List.mem_takeWhile_imp (hsub.subset hc)
    simpa using hkeep

theorem plainName_of_searchesIndex (hread : Address.read s.endpoint = some base) (hquery : base.query = none)
    (hfragment : base.fragment = none) (h : s.SearchesIndex base index) : PlainName index := by
  obtain ⟨segments, slashes, hpath, hurl⟩ := exists_read_searchUrl hread hquery hfragment
  obtain ⟨url, hreadUrl, -, -, ⟨path, k, segment, hbase, hurlPath, hdecoded⟩, -⟩ := h
  rw [hurl index, Option.some.injEq] at hreadUrl
  subst hreadUrl
  rcases part_of_segment (hpath.symm.trans hbase) hurlPath with rfl | ⟨hsub, hchars, hdots⟩
  · -- only the empty name is the empty segment
    have hempty : index.toList = [] := bytes_eq_nil hdecoded.symm
    constructor <;> rw [hempty]
    · exact nofun
    · rfl
    · decide
  · have hlength : (bytes index.toList).length ≤ (bytes segment).length := by
      rw [← hdecoded]
      rcases decoded_cases segment with ⟨-, heq⟩ | ⟨-, hlt⟩
      · rw [heq]
      · exact Nat.le_of_lt hlt
    have hself : segment = index.toList :=
      eq_of_sublist_of_length_bytes (hsub.trans List.filter_sublist) hlength
    subst hself
    refine ⟨fun c hc => ⟨?_, hchars c hc⟩, ?_, hdots⟩
    · have hkeep := (List.mem_filter.1 (hsub.subset hc)).2
      simpa using hkeep
    · rcases decoded_cases index.toList with ⟨hno, -⟩ | ⟨-, hlt⟩
      · exact hno
      · rw [hdecoded] at hlt
        exact absurd hlt (Nat.lt_irrefl _)

end

/-- `SELECT a FROM` an index. -/
def selectFrom (index : String) : Sql.Query :=
  ⟨"", .select ⟨none, "", [.expr (.name ⟨"a", none⟩)], "", [⟨.table [⟨index, some '"'⟩] "" none "", []⟩], "", none,
    .keys [], ""⟩, [], none, ""⟩

theorem planOf_selectFrom (now : Int) (index : String) :
    ∃ level, Query.planOf now (selectFrom index) = .ok ⟨index, level, []⟩ := by
  have hplan : ∃ level, Query.planOf now (selectFrom index) = .ok ⟨".".intercalate [index], level, []⟩ := ⟨_, rfl⟩
  rwa [String.intercalate_singleton] at hplan

/-- **A query is posted to the search of its index exactly if the name of the index is plain**, over any engine without
query and fragment in its address; and a query can name what it likes. -/
theorem searchesIndex_iff_plainName {s : Session} {base : Address} (hread : Address.read s.endpoint = some base)
    (hquery : base.query = none) (hfragment : base.fragment = none) (now : Int) :
    (∀ q plan, Query.planOf now q = .ok plan → (s.SearchesIndex base plan.index ↔ PlainName plan.index)) ∧
      ∀ index, ∃ q plan, Query.planOf now q = .ok plan ∧ plan.index = index := by
  refine ⟨fun q plan _ => ⟨fun h => ?_, fun h => ?_⟩, fun index => ?_⟩
  · exact plainName_of_searchesIndex hread hquery hfragment h
  · exact searchesIndex_of_plainName hread hquery hfragment h
  · obtain ⟨level, hplan⟩ := planOf_selectFrom now index
    exact ⟨selectFrom index, _, hplan, rfl⟩

/-- The address of the engine in the standard settings. -/
def standardAddress : Address := ⟨"http".toList, "localhost:9200".toList, [[]], none, none⟩

theorem read_standard : Address.read standard.endpoint = some standardAddress := by decide +kernel

theorem searchesIndex_logs : Address.read standard.endpoint = some standardAddress ∧
    standard.SearchesIndex standardAddress "logs-*" := by
  obtain ⟨level, hplan⟩ := planOf_selectFrom 0 "logs-*"
  have hchars : ("logs-*".toList.all fun c => !isLeftOut c && (!isSlash c && !endsPath c)) = true := by decide
  have hplain : PlainName "logs-*" :=
    ⟨fun c hc => by simpa using List.all_eq_true.1 hchars c hc, by decide, by decide⟩
  exact ⟨read_standard, ((searchesIndex_iff_plainName read_standard rfl rfl 0).1 _ _ hplan).2 hplain⟩

/-- **A quoted name makes a query delete what it should search.** -/
theorem not_searchesIndex_delete_by_query :
    ∃ q plan, Sql.readStatement "SELECT a FROM \"logs/_delete_by_query?q=\"" = .ok (.query q) ∧
      Query.planOf 0 q = .ok plan ∧ ¬ standard.SearchesIndex standardAddress plan.index := by
  have hindex : (match Sql.readStatement "SELECT a FROM \"logs/_delete_by_query?q=\"" with
      | .ok (.query q) => (match Query.planOf 0 q with
        | .ok plan => plan.index == "logs/_delete_by_query?q="
        | .error _ => false)
      | _ => false) = true := by
    decide +kernel
  split at hindex
  · rename_i q hread
    split at hindex
    · rename_i plan hplan
      refine ⟨q, plan, hread, hplan, ?_⟩
      rw [beq_iff_eq.1 hindex]
      rintro ⟨url, hurl, -, -, -, hquery⟩
      have hposted : (Address.read (standard.searchUrl "logs/_delete_by_query?q=")).bind Address.query =
          some "q=/_search?typed_keys=true".toList := by
        decide +kernel
      rw [hurl, Option.bind_some, hquery] at hposted
      exact absurd hposted (by decide)
    · cases hindex
  · cases hindex

end Session
end FacetSql
