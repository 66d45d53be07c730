import FacetSql.Text.Blank
import Mathlib.Data.List.TakeWhile
/-!
# Address — how an HTTP address is read

Tabs and line breaks are left out, backslashes are slashes, and segments of dots are resolved.  A segment stands for
the bytes that are left when its escapes are read.  What stands behind the authority is read without looking at what
stands in front (`read_of_opens`, `exists_opens_of_read`), and a resolved path has no segments but those it was
resolved from (`getElem?_foldl_step`).
-/
namespace FacetSql

/-- **The parts of an HTTP address.** -/
structure Address where
  scheme : List Char
  authority : List Char
  path : List (List Char)
  query : Option (List Char)
  fragment : Option (List Char)
  deriving DecidableEq

namespace Address

/-- A character that is left out wherever it stands. -/
def isLeftOut (c : Char) : Bool := c == '\t' || c == '\n' || c == '\r'

/-- The characters of a text that are read. -/
def kept (cs : List Char) : List Char := cs.filter (fun c => !isLeftOut c)

/-- A character between two segments of a path. -/
def isSlash (c : Char) : Bool := c == '/' || c == '\\'

/-- A character that ends the path. -/
def endsPath (c : Char) : Bool := c == '?' || c == '#'

/-- A character of the authority. -/
def inAuthority (c : Char) : Bool := !isSlash c && !endsPath c

/-- The segment that stands for the path in front of it.  A point may be escaped. -/
def isDot (segment : List Char) : Bool :=
  [".", "%2e"].contains (String.ofList (segment.map Char.toLower))

/-- The segment that takes back the one in front of it. -/
def isDotDot (segment : List Char) : Bool :=
  ["..", ".%2e", "%2e.", "%2e%2e"].contains (String.ofList (segment.map Char.toLower))

/-- **A path with one more segment behind it.** -/
def step (path : List (List Char)) (segment : List Char) : List (List Char) :=
  if isDotDot segment then path.dropLast
  else if isDot segment then path
  else path ++ [segment]

/-- **The path that segments resolve to.**  Dots at the end leave an empty segment. -/
def resolved (segments : List (List Char)) : List (List Char) :=
  if segments.getLast?.any (fun s => isDot s || isDotDot s) then segments.foldl step [] ++ [[]]
  else segments.foldl step []

/-- The path of what stands behind an authority. -/
def pathOf (rest : List Char) : List (List Char) :=
  resolved (((rest.takeWhile (fun c => !endsPath c)).drop 1).splitOnP isSlash)

/-- The query of what stands behind an authority. -/
def queryOf (rest : List Char) : Option (List Char) := ((rest.takeWhile (· != '#')).dropWhile (· != '?')).tail?

/-- The fragment of what stands behind an authority. -/
def fragmentOf (rest : List Char) : Option (List Char) := (rest.dropWhile (· != '#')).tail?

/-- **Reads an HTTP address.**  Blanks at its end are not part of one. -/
def read (text : String) : Option Address :=
  let cs := kept text.toList
  let scheme := cs.takeWhile (· != ':')
  let behind := (cs.drop (scheme.length + 1)).dropWhile isSlash
  let authority := behind.takeWhile inAuthority
  let rest := behind.dropWhile inAuthority
  if ["http", "https"].contains (String.ofList (scheme.map Char.toLower)) && !authority.isEmpty &&
      !text.toList.getLast?.any (· ≤ ' ') then
    some ⟨scheme.map Char.toLower, authority, pathOf rest, queryOf rest, fragmentOf rest⟩
  else none

/-- The value of a hexadecimal digit. -/
def hexValue (c : Char) : Option Nat :=
  if c.isDigit then some (c.toNat - '0'.toNat)
  else if 'a' ≤ c.toLower && c.toLower ≤ 'f' then some (c.toLower.toNat - 'a'.toNat + 10)
  else none

/-- The bytes of a text. -/
def bytes (cs : List Char) : List UInt8 := cs.flatMap String.utf8EncodeChar

/-- **The bytes a segment stands for.**  A percent sign that no two digits follow stands for itself. -/
def decoded : List Char → List UInt8
  | '%' :: a :: b :: cs =>
    match hexValue a, hexValue b with
    | some high, some low => UInt8.ofNat (16 * high + low) :: decoded cs
    | _, _ => String.utf8EncodeChar '%' ++ decoded (a :: b :: cs)
  | c :: cs => String.utf8EncodeChar c ++ decoded cs
  | [] => []

/-- **An escape stands somewhere.** -/
def hasEscape : List Char → Bool
  | '%' :: a :: b :: cs => ((hexValue a).isSome && (hexValue b).isSome) || hasEscape (a :: b :: cs)
  | _ :: cs => hasEscape cs
  | [] => false

/-- **The front of an address**: scheme, slashes and authority. -/
structure Opens (front scheme authority : List Char) : Prop where
  shape : ∃ slashes, front = scheme ++ ':' :: (slashes ++ authority) ∧ ∀ c ∈ slashes, isSlash c = true
  isHttp : ["http", "https"].contains (String.ofList (scheme.map Char.toLower)) = true
  noColon : ∀ c ∈ scheme, (c != ':') = true
  authority_ne_nil : authority ≠ []
  chars : ∀ c ∈ authority, inAuthority c = true

theorem getLast?_append_of_ne_nil (cs : List Char) {cs' : List Char} (h : cs' ≠ []) :
    (cs ++ cs').getLast? = cs'.getLast? := by
  rw [List.getLast?_append, List.getLast?_eq_some_getLast h]
  rfl

theorem Opens.getLast {front scheme authority : List Char} (h : Opens front scheme authority) {c : Char}
    (hc : front.getLast? = some c) : inAuthority c = true := by
  obtain ⟨slashes, rfl, -⟩ := h.shape
  rw [getLast?_append_of_ne_nil _ (List.cons_ne_nil _ _), ← List.cons_append,
    getLast?_append_of_ne_nil _ h.authority_ne_nil] at hc
  exact h.chars c (List.mem_of_getLast? hc)

theorem takeWhile_eq_nil_of_head {p : Char → Bool} {cs : List Char} (h : ∀ c ∈ cs.head?, p c = false) :
    cs.takeWhile p = [] ∧ cs.dropWhile p = cs := by
  cases cs with
  | nil => exact ⟨rfl, rfl⟩
  | cons c cs =>
    have hc : ¬ p c = true := by simpa using h c rfl
    exact ⟨List.takeWhile_cons_of_neg hc, List.dropWhile_cons_of_neg hc⟩

/-- **What stands behind the authority is read by itself.** -/
theorem read_of_opens {text : String} {front scheme authority rest : List Char} (ho : Opens front scheme authority)
    (hkept : kept text.toList = front ++ rest) (hrest : ∀ c ∈ rest.head?, inAuthority c = false)
    (hend : text.toList.getLast?.any (· ≤ ' ') = false) :
    read text = some ⟨scheme.map Char.toLower, authority, pathOf rest, queryOf rest, fragmentOf rest⟩ := by
  obtain ⟨⟨slashes, rfl, hslashes⟩, hhttp, hcolon, hne, hchars⟩ := ho
  have hcs : kept text.toList = scheme ++ ':' :: (slashes ++ (authority ++ rest)) := by
    rw [hkept]
    simp only [List.append_assoc, List.cons_append]
  have hscheme : (kept text.toList).takeWhile (· != ':') = scheme := by
    rw [hcs, List.takeWhile_append_of_pos hcolon, List.takeWhile_cons_of_neg (by decide), List.append_nil]
  have hbehind : ((kept text.toList).drop (scheme.length + 1)).dropWhile isSlash = authority ++ rest := by
    have hdrop : (kept text.toList).drop (scheme.length + 1) = slashes ++ (authority ++ rest) := by
      rw [hcs, ← List.drop_drop, List.drop_left, List.drop_one, List.tail_cons]
    rw [hdrop, List.dropWhile_append_of_pos hslashes]
    obtain ⟨c, cs, rfl⟩ := List.exists_cons_of_ne_nil hne
    have hc : isSlash c = false := by
      have hin := hchars c List.mem_cons_self
      rw [inAuthority, Bool.and_eq_true, Bool.not_eq_true'] at hin
      exact hin.1
    exact List.dropWhile_cons_of_neg (by simp [hc])
  obtain ⟨htake, hdrop⟩ := takeWhile_eq_nil_of_head hrest
  have hauthority : (authority ++ rest).takeWhile inAuthority = authority := by
    rw [List.takeWhile_append_of_pos hchars, htake, List.append_nil]
  have hbehindAuthority : (authority ++ rest).dropWhile inAuthority = rest := by
    rw [List.dropWhile_append_of_pos hchars, hdrop]
  have hnonempty : authority.isEmpty = false := by simpa using hne
  simp only [read, hscheme, hbehind, hauthority, hbehindAuthority, hhttp, hend, hnonempty, Bool.not_false,
    Bool.and_self, if_true]

theorem exists_opens_of_read {text : String} {a : Address} (h : read text = some a) :
    ∃ front scheme rest, Opens front scheme a.authority ∧ kept text.toList = front ++ rest ∧
      (∀ c ∈ rest.head?, inAuthority c = false) ∧
      a = ⟨scheme.map Char.toLower, a.authority, pathOf rest, queryOf rest, fragmentOf rest⟩ := by
  unfold read at h
  dsimp only at h
  split at h
  · rename_i hread
    cases h
    simp only [Bool.and_eq_true, Bool.not_eq_true', List.isEmpty_eq_false_iff] at hread
    obtain ⟨⟨hhttp, hne⟩, -⟩ := hread
    generalize hscheme : (kept text.toList).takeWhile (· != ':') = scheme at hhttp hne ⊢
    generalize hbehind : ((kept text.toList).drop (scheme.length + 1)).dropWhile isSlash = behind at hne ⊢
    have hcs : kept text.toList = scheme ++ (kept text.toList).dropWhile (· != ':') := by
      rw [← hscheme, List.takeWhile_append_dropWhile]
    -- an authority can only stand behind a colon
    obtain ⟨c, after, hcolon⟩ : ∃ c after, (kept text.toList).dropWhile (· != ':') = c :: after := by
      apply List.exists_cons_of_ne_nil
      intro hnil
      rw [hnil, List.append_nil] at hcs
      rw [hcs, List.drop_eq_nil_of_le (Nat.le_succ _)] at hbehind
      exact hne (by rw [← hbehind]; rfl)
    have hc : c = ':' := by
      have hhead := List.head?_dropWhile_not (· != ':') (kept text.toList)
      rw [hcolon] at hhead
      simpa using hhead
    subst hc
    rw [hcolon] at hcs
    have hdrop : (kept text.toList).drop (scheme.length + 1) = after := by
      rw [hcs, ← List.drop_drop, List.drop_left, List.drop_one, List.tail_cons]
    rw [hdrop] at hbehind
    have hsplit : behind.takeWhile inAuthority ++ behind.dropWhile inAuthority = behind :=
      List.takeWhile_append_dropWhile
    refine ⟨scheme ++ ':' :: (after.takeWhile isSlash ++ behind.takeWhile inAuthority), scheme,
      behind.dropWhile inAuthority, ⟨⟨_, rfl, fun c => List.mem_takeWhile_imp⟩, hhttp, fun c hc => ?_, hne,
      fun c => List.mem_takeWhile_imp⟩, ?_, fun c hc => ?_, rfl⟩
    · rw [← hscheme] at hc
      have hne := List.mem_takeWhile_imp hc
      exact hne
    · have hafter : after.takeWhile isSlash ++ behind = after := by
        rw [← hbehind]
        exact List.takeWhile_append_dropWhile
      simp only [List.append_assoc, List.cons_append, hsplit, hafter]
      exact hcs
    · have hhead := List.head?_dropWhile_not inAuthority behind
      rw [Option.mem_def.1 hc] at hhead
      exact hhead
  · cases h

theorem endsPath_eq_false_iff {c : Char} : endsPath c = false ↔ (c != '?') = true ∧ (c != '#') = true := by
  rw [endsPath, Bool.or_eq_false_iff, bne, bne, Bool.not_eq_true', Bool.not_eq_true']

/-- What stands in front of the end of the path is in neither query nor fragment. -/
theorem queryOf_append {front : List Char} (h : ∀ c ∈ front, endsPath c = false) (rest : List Char) :
    queryOf (front ++ rest) = queryOf rest ∧ fragmentOf (front ++ rest) = fragmentOf rest := by
  have hquery : ∀ c ∈ front, (c != '?') = true := fun c hc => (endsPath_eq_false_iff.1 (h c hc)).1
  have hfragment : ∀ c ∈ front, (c != '#') = true := fun c hc => (endsPath_eq_false_iff.1 (h c hc)).2
  constructor
  · rw [queryOf, List.takeWhile_append_of_pos hfragment, List.dropWhile_append_of_pos hquery]
    rfl
  · rw [fragmentOf, List.dropWhile_append_of_pos hfragment]
    rfl

theorem endsPath_of_queryOf {rest : List Char} (hquery : queryOf rest = none) (hfragment : fragmentOf rest = none) :
    ∀ c ∈ rest, endsPath c = false := by
  have hnil : ∀ cs : List Char, cs.tail? = none → cs = [] := by
    intro cs h
    cases cs with
    | nil => rfl
    | cons => cases h
  have hhash : ∀ c ∈ rest, (c != '#') = true := List.dropWhile_eq_nil_iff.1 (hnil _ hfragment)
  rw [queryOf, List.takeWhile_eq_self_iff.2 hhash] at hquery
  have hmark : ∀ c ∈ rest, (c != '?') = true := List.dropWhile_eq_nil_iff.1 (hnil _ hquery)
  exact fun c hc => endsPath_eq_false_iff.2 ⟨hmark c hc, hhash c hc⟩

/-- **A resolved path has no segments but those it was resolved from**, and none of dots. -/
theorem getElem?_foldl_step {segments path : List (List Char)} {i : Nat} {segment : List Char}
    (h : (segments.foldl step path)[i]? = some segment) :
    path[i]? = some segment ∨ (segment ∈ segments ∧ isDot segment = false ∧ isDotDot segment = false) := by
  induction segments generalizing path with
  | nil => exact .inl h
  | cons next segments ih =>
    rcases ih h with hstep | ⟨hmem, hdots⟩
    · unfold step at hstep
      split at hstep
      · rw [List.getElem?_dropLast] at hstep
        split at hstep
        · exact .inl hstep
        · cases hstep
      · rename_i htwo
        split at hstep
        · exact .inl hstep
        · rename_i hone
          by_cases hi : i < path.length
          · rw [List.getElem?_append_left hi] at hstep
            exact .inl hstep
          · have hnext := List.mem_of_getElem? (List.getElem?_append_right (Nat.le_of_not_lt hi) ▸ hstep)
            rw [List.mem_singleton.1 hnext]
            exact .inr ⟨List.mem_cons_self, Bool.eq_false_iff.2 hone, Bool.eq_false_iff.2 htwo⟩
    · exact .inr ⟨List.mem_cons_of_mem _ hmem, hdots⟩

theorem getElem?_resolved {segments : List (List Char)} {i : Nat} {segment : List Char}
    (h : (resolved segments)[i]? = some segment) : segment = [] ∨ (segments.foldl step [])[i]? = some segment := by
  unfold resolved at h
  split at h
  · by_cases hi : i < (segments.foldl step []).length
    · exact .inr (List.getElem?_append_left hi ▸ h)
    · exact .inl (List.mem_singleton.1 (List.mem_of_getElem? (List.getElem?_append_right (Nat.le_of_not_lt hi) ▸ h)))
  · exact .inr h

theorem step_of_not_dots {path : List (List Char)} {segment : List Char} (hone : isDot segment = false)
    (htwo : isDotDot segment = false) : step path segment = path ++ [segment] := by
  rw [step, htwo, hone]
  rfl

/-- A segment that is no dots stands behind what the others resolve to. -/
theorem resolved_concat {segments : List (List Char)} {segment : List Char} (hone : isDot segment = false)
    (htwo : isDotDot segment = false) : resolved (segments ++ [segment]) = segments.foldl step [] ++ [segment] := by
  have hdots : (segments ++ [segment]).getLast?.any (fun s => isDot s || isDotDot s) = false := by
    rw [List.getLast?_concat, Option.any_some, hone, htwo, Bool.or_self]
  rw [resolved, hdots, List.foldl_append, List.foldl_cons, List.foldl_nil, step_of_not_dots hone htwo]
  rfl

/-- Behind a path, slashes leave empty segments and dots one. -/
theorem exists_resolved_slashes (segments : List (List Char)) (slashes : Nat) :
    ∃ k, resolved (segments ++ List.replicate slashes []) = segments.foldl step [] ++ List.replicate k [] := by
  cases slashes with
  | zero =>
    rw [List.replicate_zero, List.append_nil, resolved]
    split
    · exact ⟨1, rfl⟩
    · exact ⟨0, (List.append_nil _).symm⟩
  | succ slashes =>
    have hfold : ∀ (n : Nat) (path : List (List Char)),
        (List.replicate n []).foldl step path = path ++ List.replicate n [] := by
      intro n
      induction n with
      | zero => exact fun path => (List.append_nil path).symm
      | succ n ih =>
        intro path
        rw [List.replicate_succ, List.foldl_cons, step_of_not_dots (by decide) (by decide), ih, List.append_assoc,
          List.singleton_append]
    refine ⟨slashes + 1, ?_⟩
    rw [List.replicate_succ', ← List.append_assoc, resolved_concat (by decide) (by decide), List.foldl_append, hfold,
      List.append_assoc]

theorem splitOnP_slashes (cs : List Char) (n : Nat) :
    (cs ++ List.replicate n '/').splitOnP isSlash = cs.splitOnP isSlash ++ List.replicate n [] := by
  induction n generalizing cs with
  | zero => rw [List.replicate_zero, List.replicate_zero, List.append_nil, List.append_nil]
  | succ n ih =>
    rw [List.replicate_succ, List.splitOnP_append_cons _ _ rfl, ← List.nil_append (List.replicate n '/'), ih,
      List.splitOnP_nil, List.replicate_succ, List.singleton_append]

/-- **The path in front of whatever follows a slash** is that of the front itself, slashes at its end aside. -/
theorem exists_pathOf_append {front : List Char} (hfront : ∀ c ∈ front, endsPath c = false) (n : Nat) :
    ∃ segments k, pathOf (front ++ List.replicate n '/') = segments.foldl step [] ++ List.replicate k [] ∧
      ∀ rest, pathOf (front ++ '/' :: rest) =
        resolved (segments ++ (rest.takeWhile (fun c => !endsPath c)).splitOnP isSlash) := by
  have hkeep : ∀ c ∈ front, (!endsPath c) = true := fun c hc => by rw [hfront c hc]; rfl
  have hslash : ∀ rest : List Char, ('/' :: rest).takeWhile (fun c => !endsPath c) =
      '/' :: rest.takeWhile (fun c => !endsPath c) := fun rest => List.takeWhile_cons_of_pos rfl
  have hslashes : (List.replicate n '/').takeWhile (fun c => !endsPath c) = List.replicate n '/' := by
    rw [List.takeWhile_eq_self_iff]
    intro c hc
    rw [List.eq_of_mem_replicate hc]
    rfl
  simp only [pathOf, List.takeWhile_append_of_pos hkeep, hslash, hslashes]
  cases front with
  | nil =>
    obtain ⟨k, hk⟩ := exists_resolved_slashes [] (n - 1 + 1)
    refine ⟨[], k, ?_, fun rest => rfl⟩
    rw [List.nil_append, List.drop_replicate, ← List.nil_append (List.replicate (n - 1) '/'), splitOnP_slashes,
      List.splitOnP_nil, List.singleton_append, ← List.replicate_succ]
    exact hk
  | cons c front =>
    obtain ⟨k, hk⟩ := exists_resolved_slashes (front.splitOnP isSlash) n
    refine ⟨front.splitOnP isSlash, k, ?_, fun rest => ?_⟩
    · rw [List.cons_append, List.drop_one, List.tail_cons, splitOnP_slashes]
      exact hk
    · rw [List.cons_append, List.drop_one, List.tail_cons, List.splitOnP_append_cons _ _ rfl]

theorem of_mem_splitOnP {p : Char → Bool} {cs segment : List Char} (h : segment ∈ cs.splitOnP p) :
    segment.Sublist cs ∧ ∀ c ∈ segment, p c = false := by
  induction cs generalizing segment with
  | nil =>
    rw [List.splitOnP_nil, List.mem_singleton] at h
    subst h
    exact ⟨.slnil, nofun⟩
  | cons c cs ih =>
    rw [List.splitOnP_cons_eq_if_modifyHead] at h
    split at h
    · rcases List.mem_cons.1 h with rfl | h
      · exact ⟨List.nil_sublist _, nofun⟩
      · exact ⟨(ih h).1.cons c, (ih h).2⟩
    · rename_i hc
      obtain ⟨first, others, hsplit⟩ := List.exists_cons_of_ne_nil (List.splitOnP_ne_nil p cs)
      rw [hsplit] at h ih
      rcases List.mem_cons.1 h with rfl | h
      · obtain ⟨hsub, hfirst⟩ := ih List.mem_cons_self
        exact ⟨hsub.cons_cons c, List.forall_mem_cons.2 ⟨Bool.eq_false_iff.2 hc, hfirst⟩⟩
      · obtain ⟨hsub, hother⟩ := ih (List.mem_cons_of_mem _ h)
        exact ⟨hsub.cons c, hother⟩

theorem bytes_cons (c : Char) (cs : List Char) : bytes (c :: cs) = String.utf8EncodeChar c ++ bytes cs :=
  List.flatMap_cons

theorem length_utf8EncodeChar_pos (c : Char) : 0 < (String.utf8EncodeChar c).length := by
  rw [String.length_utf8EncodeChar]
  exact c.utf8Size_pos

theorem bytes_eq_nil {cs : List Char} (h : bytes cs = []) : cs = [] := by
  cases cs with
  | nil => rfl
  | cons c cs =>
    rw [bytes_cons, List.append_eq_nil_iff] at h
    exact absurd h.1 (List.ne_nil_of_length_pos (length_utf8EncodeChar_pos c))

theorem length_bytes_le_of_sublist {cs cs' : List Char} (h : cs.Sublist cs') :
    (bytes cs).length ≤ (bytes cs').length := by
  induction h with
  | slnil => exact Nat.le_refl _
  | cons c _ ih =>
    rw [bytes_cons, List.length_append]
    exact Nat.le_add_left_of_le ih
  | cons_cons c _ ih =>
    rw [bytes_cons, bytes_cons, List.length_append, List.length_append]
    exact Nat.add_le_add_left ih _

/-- A part of a text that has no fewer bytes is the text. -/
theorem eq_of_sublist_of_length_bytes {cs cs' : List Char} (h : cs.Sublist cs')
    (hlen : (bytes cs').length ≤ (bytes cs).length) : cs = cs' := by
  induction h with
  | slnil => rfl
  | @cons cs cs' c h _ =>
    have hle := length_bytes_le_of_sublist h
    have hpos := length_utf8EncodeChar_pos c
    rw [bytes_cons, List.length_append] at hlen
    omega
  | cons_cons c _ ih =>
    rw [bytes_cons, bytes_cons, List.length_append, List.length_append] at hlen
    rw [ih (by omega)]

/-- **A segment stands for as many bytes as it has if it has no escape**, which are its own, and for less otherwise. -/
theorem decoded_cases (cs : List Char) :
    (hasEscape cs = false ∧ decoded cs = bytes cs) ∨
      (hasEscape cs = true ∧ (decoded cs).length < (bytes cs).length) := by
  -- a character that opens no escape has the same bytes on both sides
  have hplain : ∀ (c : Char) (cs : List Char),
      (hasEscape cs = false ∧ decoded cs = bytes cs) ∨
        (hasEscape cs = true ∧ (decoded cs).length < (bytes cs).length) →
      (hasEscape cs = false ∧ String.utf8EncodeChar c ++ decoded cs = bytes (c :: cs)) ∨
        (hasEscape cs = true ∧ (String.utf8EncodeChar c ++ decoded cs).length < (bytes (c :: cs)).length) := by
    rintro c cs (⟨hno, heq⟩ | ⟨hyes, hlt⟩)
    · exact .inl ⟨hno, by rw [heq, bytes_cons]⟩
    · refine .inr ⟨hyes, ?_⟩
      rw [bytes_cons, List.length_append, List.length_append]
      exact Nat.add_lt_add_left hlt _
  fun_induction decoded cs with
  | case1 a b cs high low hb ha ih =>
    refine .inr ⟨by simp [hasEscape, ha, hb], ?_⟩
    have hle : (decoded cs).length ≤ (bytes cs).length := by
      rcases ih with ⟨-, heq⟩ | ⟨-, hlt⟩
      · rw [heq]
      · exact Nat.le_of_lt hlt
    have hpos := length_utf8EncodeChar_pos
    simp only [bytes_cons, List.length_append, List.length_cons]
    have := hpos '%'
    have := hpos a
    omega
  | case2 a b cs hnot ih =>
    have hdigits : ((hexValue a).isSome && (hexValue b).isSome) = false := by
      cases ha : hexValue a with
      | none => rfl
      | some high =>
        cases hb : hexValue b with
        | none => rfl
        | some low => exact absurd hb (hnot high low ha)
    rw [hasEscape, hdigits, Bool.false_or]
    exact hplain '%' _ ih
  | case3 c cs hnot ih =>
    have hrest : hasEscape (c :: cs) = hasEscape cs := by
      rw [hasEscape]
      exact hnot
    rw [hrest]
    exact hplain c cs ih
  | case4 => exact .inl ⟨rfl, rfl⟩

end Address
end FacetSql
