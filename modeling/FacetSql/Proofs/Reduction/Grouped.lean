import FacetSql.Proofs.Cell.Ordered
import FacetSql.Proofs.Checked
import FacetSql.Reduction.Lemmas
/-!
# Grouped — the groups of rows as a partition

The first row of a list makes the first group, together with all rows of its key, and the other rows make the other
groups (`groupsOf_cons`).  So whatever the keys are, no row is lost or taken twice (`flatMap_groupsOf_perm`), and no two
groups have the same key (`pairwise_groupsOf`).  Where no key is a NaN, sameness of keys is an equivalence
(`sameKey_iff`), and there is one group for each different key, with exactly the rows of that key (`groupsOf_eq`).
-/
namespace FacetSql

/-- **What a cell counts as among keys**: a float counts as its place on the line, so the two zeros are one. -/
inductive Mark where
  | missing
  | bool (b : Bool)
  | int (n : Int)
  | float (place : Int ×ₗ Int ×ₗ Int)
  | text (s : String)
  | instant (millis : Int)

namespace Cell

def mark : Cell → Mark
  | .null => .missing
  | .bool b => .bool b
  | .int n => .int n
  | .float x => .float (Numeral.place x)
  | .text s => .text s
  | .instant millis => .instant millis

theorem same_iff {a b : Cell} (ha : a.NotNaN) (hb : b.NotNaN) : a.same b = true ↔ a.mark = b.mark := by
  cases a <;> cases b
  case float.float x y => exact (Numeral.beq_iff_place ha hb).trans (by simp [mark])
  all_goals simp [same, mark]

theorem same_comm (a b : Cell) : a.same b = b.same a := by
  cases a <;> cases b
  case float.float x y => exact Numeral.beq_comm x y
  all_goals simp only [same, Bool.beq_comm]

end Cell

namespace Row

/-- **No cell of the row is a NaN.** -/
def NotNaN (row : Row) : Prop := ∀ c ∈ row, c.NotNaN

instance : DecidablePred NotNaN := fun row => inferInstanceAs (Decidable (∀ c ∈ row, c.NotNaN))

theorem NotNaN.cell {row : Row} (h : row.NotNaN) (i : Nat) : (row.cell i).NotNaN := by
  rw [cell_eq]
  cases hi : row[i]? with
  | none => trivial
  | some c => exact h c (List.mem_of_getElem? hi)

end Row

namespace Reduction

theorem sameKey_comm : ∀ as bs : List Cell, sameKey as bs = sameKey bs as
  | [], [] | [], _ :: _ | _ :: _, [] => rfl
  | a :: as, b :: bs => by rw [sameKey, sameKey, a.same_comm b, sameKey_comm as bs]

theorem sameKey_false_symm {as bs : List Cell} (h : sameKey as bs = false) : sameKey bs as = false :=
  (sameKey_comm bs as).trans h

/-- The rows that have a key. -/
def rowsWith (places : List Nat) (rows : List Row) (key : List Cell) : List Row :=
  rows.filter (fun row => sameKey key (keyOf places row))

/-- The rows that have another key. -/
def rowsWithout (places : List Nat) (rows : List Row) (key : List Cell) : List Row :=
  rows.filter (fun row => !sameKey key (keyOf places row))

/-- **The different keys of rows**, each where it first appears. -/
def distinctKeys (places : List Nat) (rows : List Row) : List (List Cell) :=
  (rows.map (keyOf places)).eraseDupsBy sameKey

section

variable {places : List Nat} {rows : List Row} {key : List Cell}

theorem rowsWith_cons (places : List Nat) (row : Row) (rows : List Row) (key : List Cell) :
    rowsWith places (row :: rows) key =
      if sameKey key (keyOf places row) then row :: rowsWith places rows key else rowsWith places rows key :=
  List.filter_cons

theorem rowsWithout_cons (places : List Nat) (row : Row) (rows : List Row) (key : List Cell) :
    rowsWithout places (row :: rows) key =
      if sameKey key (keyOf places row) then rowsWithout places rows key else row :: rowsWithout places rows key := by
  rw [rowsWithout, List.filter_cons]
  cases sameKey key (keyOf places row) <;> rfl

theorem foldl_addToGroups (places : List Nat) : ∀ (rows : List Row) (g : Group) (gs : List Group),
    rows.foldl (fun groups row => addToGroups (keyOf places row) row groups) (g :: gs) =
      ⟨g.key, g.rows ++ rowsWith places rows g.key⟩ ::
        (rowsWithout places rows g.key).foldl (fun groups row => addToGroups (keyOf places row) row groups) gs
  | [], g, gs => by simp [rowsWith, rowsWithout]
  | row :: rows, g, gs => by
    rw [List.foldl_cons, addToGroups, rowsWith_cons, rowsWithout_cons]
    cases sameKey g.key (keyOf places row) with
    | true =>
      show rows.foldl _ (⟨g.key, g.rows ++ [row]⟩ :: gs) = _
      rw [foldl_addToGroups places rows, List.append_assoc]
      rfl
    | false => exact foldl_addToGroups places rows g _

/-- **The first group is that of the first row**, and the others are those of the rows with another key. -/
theorem groupsOf_cons (places : List Nat) (row : Row) (rows : List Row) :
    groupsOf places (row :: rows) =
      ⟨keyOf places row, row :: rowsWith places rows (keyOf places row)⟩ ::
        groupsOf places (rowsWithout places rows (keyOf places row)) :=
  foldl_addToGroups places rows ⟨keyOf places row, [row]⟩ []

/-- **Every row is in exactly one group.** -/
theorem flatMap_groupsOf_perm (places : List Nat) : ∀ rows : List Row,
    ((groupsOf places rows).flatMap Group.rows).Perm rows
  | [] => List.Perm.refl _
  | row :: rows => by
    rw [groupsOf_cons, List.flatMap_cons]
    have hothers := flatMap_groupsOf_perm places (rowsWithout places rows (keyOf places row))
    exact ((hothers.append_left _).trans (List.filter_append_perm _ rows)).cons row
termination_by rows => rows.length
decreasing_by exact Nat.lt_succ_of_le (List.length_filter_le _ _)

/-- **A group starts with a row of its key.** -/
theorem exists_head_of_mem_groupsOf (places : List Nat) : ∀ (rows : List Row) {g : Group}, g ∈ groupsOf places rows →
    ∃ row ∈ rows, ∃ more, g.rows = row :: more ∧ keyOf places row = g.key
  | row :: rows, g, hg => by
    rw [groupsOf_cons] at hg
    rcases List.mem_cons.1 hg with rfl | hg
    · exact ⟨row, List.mem_cons_self, _, rfl, rfl⟩
    · obtain ⟨first, hfirst, more, hmore, hkey⟩ := exists_head_of_mem_groupsOf places _ hg
      exact ⟨first, List.mem_cons_of_mem _ (List.mem_of_mem_filter hfirst), more, hmore, hkey⟩
termination_by rows => rows.length
decreasing_by exact Nat.lt_succ_of_le (List.length_filter_le _ _)

/-- **No two groups have the same key.** -/
theorem pairwise_groupsOf (places : List Nat) : ∀ rows : List Row,
    (groupsOf places rows).Pairwise (fun g g' => sameKey g.key g'.key = false)
  | [] => List.Pairwise.nil
  | row :: rows => by
    rw [groupsOf_cons]
    refine List.Pairwise.cons (fun g hg => ?_) (pairwise_groupsOf places _)
    obtain ⟨first, hfirst, -, -, hkey⟩ := exists_head_of_mem_groupsOf places _ hg
    rw [← hkey]
    simpa using (List.mem_filter.1 hfirst).2
termination_by rows => rows.length
decreasing_by exact Nat.lt_succ_of_le (List.length_filter_le _ _)

theorem eraseDupsBy_sublist {α : Type} (same : α → α → Bool) : ∀ as : List α, (as.eraseDupsBy same).Sublist as
  | [] => List.Sublist.refl _
  | a :: as => by
    rw [List.eraseDupsBy_cons]
    exact ((eraseDupsBy_sublist same _).trans List.filter_sublist).cons_cons a
termination_by as => as.length
decreasing_by exact Nat.lt_succ_of_le (List.length_filter_le _ _)

theorem eraseDupsBy_of_pairwise {α : Type} {same : α → α → Bool} {as : List α}
    (h : as.Pairwise (fun a b => same b a = false)) : as.eraseDupsBy same = as := by
  induction h with
  | nil => rfl
  | @cons a as ha _ ih =>
    rw [List.eraseDupsBy_cons, List.filter_eq_self.2 (fun b hb => by simpa using ha b hb), ih]

theorem pairwise_eraseDupsBy {α : Type} (same : α → α → Bool) : ∀ as : List α,
    (as.eraseDupsBy same).Pairwise (fun a b => same b a = false)
  | [] => List.Pairwise.nil
  | a :: as => by
    rw [List.eraseDupsBy_cons]
    refine List.Pairwise.cons (fun b hb => ?_) (pairwise_eraseDupsBy same _)
    simpa using (List.mem_filter.1 ((eraseDupsBy_sublist same _).subset hb)).2
termination_by as => as.length
decreasing_by exact Nat.lt_succ_of_le (List.length_filter_le _ _)

theorem sameKey_iff : ∀ {as bs : List Cell}, Row.NotNaN as → Row.NotNaN bs →
    (sameKey as bs = true ↔ as.map Cell.mark = bs.map Cell.mark)
  | [], [], _, _ => iff_of_true rfl rfl
  | [], _ :: _, _, _ => iff_of_false nofun nofun
  | _ :: _, [], _, _ => iff_of_false nofun nofun
  | a :: as, b :: bs, ha, hb => by
    obtain ⟨ha, has⟩ := List.forall_mem_cons.1 ha
    obtain ⟨hb, hbs⟩ := List.forall_mem_cons.1 hb
    rw [sameKey, Bool.and_eq_true, Cell.same_iff ha hb, sameKey_iff has hbs, List.map_cons, List.map_cons,
      List.cons.injEq]

theorem notNaN_keyOf {row : Row} (h : row.NotNaN) (places : List Nat) : Row.NotNaN (keyOf places row) := by
  intro c hc
  obtain ⟨i, -, rfl⟩ := List.mem_map.1 hc
  exact h.cell i

theorem exists_of_mem_distinctKeys (h : key ∈ distinctKeys places rows) : ∃ row ∈ rows, keyOf places row = key :=
  List.mem_map.1 ((eraseDupsBy_sublist _ _).subset h)

theorem distinctKeys_cons (places : List Nat) (row : Row) (rows : List Row) :
    distinctKeys places (row :: rows) =
      keyOf places row :: distinctKeys places (rowsWithout places rows (keyOf places row)) := by
  have hothers : (rows.map (keyOf places)).filter (fun key => sameKey key (keyOf places row) = false) =
      (rowsWithout places rows (keyOf places row)).map (keyOf places) := by
    rw [List.filter_map, rowsWithout]
    refine congrArg _ (List.filter_congr (fun r _ => ?_))
    rw [Function.comp_apply, sameKey_comm]
    cases sameKey (keyOf places row) (keyOf places r) <;> rfl
  rw [distinctKeys, List.map_cons, List.eraseDupsBy_cons, hothers]
  rfl

/-- **There is one group for each different key**, with the rows of that key. -/
theorem groupsOf_eq (places : List Nat) : ∀ rows : List Row, (∀ row ∈ rows, row.NotNaN) →
    groupsOf places rows = (distinctKeys places rows).map (fun key => ⟨key, rowsWith places rows key⟩)
  | [], _ => rfl
  | row :: rows, h => by
    obtain ⟨hrow, hrows⟩ := List.forall_mem_cons.1 h
    have hkey := notNaN_keyOf hrow places
    have hothers : ∀ r ∈ rowsWithout places rows (keyOf places row), r.NotNaN :=
      fun r hr => hrows r (List.mem_of_mem_filter hr)
    have hself : sameKey (keyOf places row) (keyOf places row) = true := (sameKey_iff hkey hkey).2 rfl
    rw [groupsOf_cons, groupsOf_eq places _ hothers, distinctKeys_cons, List.map_cons, rowsWith_cons,
      if_pos hself]
    refine congrArg _ (List.map_congr_left (fun key hmem => ?_))
    -- a row of another group has not the key of the first
    obtain ⟨other, hother, rfl⟩ := exists_of_mem_distinctKeys hmem
    have hkey' := notNaN_keyOf (hothers other hother) places
    have hapart : (keyOf places other).map Cell.mark ≠ (keyOf places row).map Cell.mark := by
      intro he
      have hne := (List.mem_filter.1 hother).2
      rw [(sameKey_iff hkey hkey').2 he.symm] at hne
      cases hne
    have hrest : rowsWith places (rowsWithout places rows (keyOf places row)) (keyOf places other) =
        rowsWith places rows (keyOf places other) := by
      rw [rowsWith, rowsWithout, List.filter_filter, rowsWith]
      refine List.filter_congr (fun r hr => ?_)
      have hr' := notNaN_keyOf (hrows r hr) places
      rw [Bool.eq_iff_iff, Bool.and_eq_true, sameKey_iff hkey' hr', Bool.not_eq_true', Bool.eq_false_iff, Ne,
        sameKey_iff hkey hr']
      exact ⟨And.left, fun hr => ⟨hr, fun he => hapart (hr.trans he.symm)⟩⟩
    rw [hrest, rowsWith_cons, if_neg (fun hsame => hapart ((sameKey_iff hkey' hkey).1 hsame))]
termination_by rows => rows.length
decreasing_by exact Nat.lt_succ_of_le (List.length_filter_le _ _)

end

/-- **One row for each different key**, reduced from exactly the rows of that key. -/
structure Partitioned (inner : Table) (outer : Heading) (places : List Nat) (out : List Row) : Prop where
  rows : List.Forall₂ (fun key row => reduce (.ofTable ⟨inner.heading, rowsWith places inner.rows key⟩) outer = .ok row)
    (distinctKeys places inner.rows) out
  apart : (distinctKeys places inner.rows).Pairwise (fun key key' => sameKey key key' = false)
  once : ((distinctKeys places inner.rows).flatMap (rowsWith places inner.rows)).Perm inner.rows

/-- **Grouped rows are partitioned by their keys.** -/
theorem partitioned_of_reduceGrouped {cursor : Cursor} {outer : Heading} {keys : List Column} {out : List Row}
    (hopen : cursor.closed = false) (hnan : ∀ row ∈ cursor.table.rows, row.NotNaN)
    (h : reduceGrouped cursor outer keys = .ok out) :
    ∃ places, keys.mapM (readPlace cursor.heading) = .ok places ∧ Partitioned cursor.table outer places out := by
  rw [reduceGrouped_eq, Cursor.rest_rewind, hopen] at h
  obtain ⟨places, hplaces, h⟩ := bind_eq_ok_iff.1 h
  have hgroups := groupsOf_eq places _ hnan
  refine ⟨places, hplaces, ?_, ?_, ?_⟩
  · rw [if_neg nofun, hgroups, mapM_eq_ok_iff, List.forall₂_map_left_iff] at h
    exact h
  · exact (pairwise_eraseDupsBy sameKey _).imp sameKey_false_symm
  · have hperm := flatMap_groupsOf_perm places cursor.table.rows
    rwa [hgroups, List.flatMap_map] at hperm

/-- `SELECT k, MAX(v)` over a subquery -/
def maximaByK : Heading := ⟨[.plain "k", { Column.function .max (some "v") [] with index := 1 }]⟩

end Reduction
end FacetSql
