import Mathlib.Data.List.DropRight
import FacetSql.Table.Lemmas
/-!
# Traversed — a table read through a cursor

However a cursor is moved, it returns the rows of its table from the first on, one after the other and from the start
again once it is rewound, and nothing from the moment on that it is closed; what it has in the end is the table as it
was, or no rows of it.  No other returns and no other cursor come of the moves (`run_eq_iff_traversed`).
-/
namespace FacetSql.Cursor

/-- What is done to a cursor. -/
inductive Move where
  | next
  | rewind
  | close
  deriving DecidableEq

/-- **A move is made**: the row it returns, if any, and the cursor behind it. -/
def make (c : Cursor) : Move → Option Row × Cursor
  | .next => c.next
  | .rewind => (none, c.rewind)
  | .close => (none, c.close)

/-- **A move that was made**, and the row that it returned. -/
structure Event where
  move : Move
  row? : Option Row

/-- One more move: its event behind the others, and the cursor behind it. -/
def step (s : List Event × Cursor) (m : Move) : List Event × Cursor :=
  (s.1 ++ [⟨m, (s.2.make m).1⟩], (s.2.make m).2)

/-- **Moves made one after the other** with a cursor over a table: what happened, and the cursor in the end. -/
def run (t : Table) (moves : List Move) : List Event × Cursor := moves.foldl step ([], ofTable t)

/-- The rows returned since the last rewinding, or from the start on. -/
def returned (log : List Event) : List Row := (log.rtakeWhile (fun e => e.move ≠ .rewind)).filterMap Event.row?

/-- **The row that a move is due to return** after what has happened: the row of the table whose number is that of the
rows returned since the last rewinding, if there is one and the cursor has never been closed. -/
def due (rows : List Row) (log : List Event) : Move → Option Row
  | .next => if .close ∈ log.map Event.move then none else rows[(returned log).length]?
  | .rewind | .close => none

/-- **Every move returned the row that was due.** -/
def Lawful (rows : List Row) (log : List Event) : Prop :=
  ∀ before e after, log = before ++ e :: after → e.row? = due rows before e.move

/-- **Where a cursor stands** after what has happened: behind the rows returned since the last rewinding, over the whole
table, or over no rows of it from the first closing on. -/
structure Standing (t : Table) (log : List Event) (c : Cursor) : Prop where
  position_le : c.position ≤ c.table.rows.length
  position : .close ∉ log.map Event.move → c.position = (returned log).length
  closed : c.closed = true ↔ .close ∈ log.map Event.move
  table : c.table = if .close ∈ log.map Event.move then .empty t.heading else t

/-- **A table traversed by moves**: what happened, and the cursor in the end. -/
structure Traversed (t : Table) (moves : List Move) (log : List Event) (c : Cursor) : Prop where
  made : log.map Event.move = moves
  lawful : Lawful t.rows log
  inOrder : returned log <+: t.rows
  standing : Standing t log c
  left : c.rest = if .close ∈ moves then [] else t.rows.drop (returned log).length

section

variable {t : Table} {rows : List Row} {log log' : List Event} {moves : List Move} {c c' : Cursor}

theorem returned_concat (log : List Event) (e : Event) :
    returned (log ++ [e]) = if e.move = .rewind then [] else returned log ++ e.row?.toList := by
  unfold returned
  rw [List.rtakeWhile_concat]
  by_cases h : e.move = .rewind
  · simp [h]
  · cases hrow : e.row? <;> simp [h, hrow]

theorem lawful_nil (rows : List Row) : Lawful rows [] := by
  intro before e after h
  simp at h

theorem lawful_concat_iff {e : Event} :
    Lawful rows (log ++ [e]) ↔ Lawful rows log ∧ e.row? = due rows log e.move := by
  constructor
  · intro h
    refine ⟨fun before e' after hlog => h before e' (after ++ [e]) ?_, h log e [] rfl⟩
    rw [hlog, List.append_assoc, List.cons_append]
  · rintro ⟨hlog, he⟩ before e' after h
    -- either nothing is behind the event, which is the last one then, or the last one is there
    obtain rfl | ⟨front, last, rfl⟩ := List.eq_nil_or_concat after
    · obtain ⟨rfl, hlast⟩ := List.append_inj' h rfl
      cases hlast
      exact he
    · rw [List.concat_eq_append, ← List.cons_append, ← List.append_assoc] at h
      exact hlog before e' front (List.append_inj' h rfl).1

/-- A first part of a list with the item behind it is a first part. -/
theorem append_getElem?_isPrefix {front : List Row} (h : front <+: rows) :
    front ++ rows[front.length]?.toList <+: rows := by
  obtain ⟨rest, rfl⟩ := h
  cases rest with
  | nil => simp
  | cons row rest => simp

/-- **The rows that are due come in the order of the table**, none left out and none twice. -/
theorem Lawful.inOrder (h : Lawful rows log) : returned log <+: rows := by
  induction log using List.reverseRecOn with
  | nil => exact List.nil_prefix
  | append_singleton log e ih =>
    obtain ⟨hlog, he⟩ := lawful_concat_iff.1 h
    rw [returned_concat, he]
    cases e.move with
    | rewind => exact List.nil_prefix
    | close => simpa [due] using ih hlog
    | next =>
      rw [if_neg nofun, due]
      split
      · simpa using ih hlog
      · exact append_getElem?_isPrefix (ih hlog)

/-- **Moves leave no choice of what they return.** -/
theorem Lawful.unique (h : Lawful rows log) (h' : Lawful rows log')
    (hmoves : log.map Event.move = log'.map Event.move) : log = log' := by
  induction log using List.reverseRecOn generalizing log' with
  | nil => exact (List.map_eq_nil_iff.1 hmoves.symm).symm
  | append_singleton log e ih =>
    obtain rfl | ⟨front, e', rfl⟩ := List.eq_nil_or_concat log'
    · simp at hmoves
    · rw [List.concat_eq_append] at h' hmoves ⊢
      obtain ⟨hlog, he⟩ := lawful_concat_iff.1 h
      obtain ⟨hfront, he'⟩ := lawful_concat_iff.1 h'
      rw [List.map_append, List.map_append] at hmoves
      obtain ⟨hfronts, hlasts⟩ := List.append_inj' hmoves rfl
      obtain rfl := ih hlog hfront hfronts
      have hmove : e.move = e'.move := List.singleton_inj.1 hlasts
      -- what is due hangs on the move and on what was before it alone
      have hrow : e.row? = e'.row? := by rw [he, he', hmove]
      cases e
      cases e'
      cases hmove
      cases hrow
      rfl

theorem Standing.heading (h : Standing t log c) : c.heading = t.heading := by
  rw [Cursor.heading, h.table]
  split <;> rfl

theorem Standing.rewind (h : Standing t log c) : Standing t (log ++ [⟨.rewind, none⟩]) c.rewind where
  position_le := Nat.zero_le _
  position _ := by rw [returned_concat]; rfl
  closed := by simpa [Cursor.rewind] using h.closed
  table := by simpa [Cursor.rewind] using h.table

theorem Standing.close (h : Standing t log c) : Standing t (log ++ [⟨.close, none⟩]) c.close where
  position_le := Nat.zero_le _
  position hopen := absurd (by simp) hopen
  closed := by simp [Cursor.close]
  table := by rw [if_pos (by simp), ← h.heading]; rfl

/-- **The next row is due**, and the cursor comes to stand behind it. -/
theorem Standing.next (h : Standing t log c) :
    c.next.1 = due t.rows log .next ∧ Standing t (log ++ [⟨.next, c.next.1⟩]) c.next.2 := by
  by_cases hclose : .close ∈ log.map Event.move
  · rw [next_of_closed (h.closed.2 hclose)]
    exact ⟨(if_pos hclose).symm, {
      position_le := h.position_le
      position := fun hopen => absurd (by simpa using hclose) hopen
      closed := by simpa using h.closed
      table := by simpa using h.table }⟩
  · have htable : c.table = t := h.table.trans (if_neg hclose)
    have hposition := h.position hclose
    rw [next_of_open (Bool.eq_false_iff.2 (hclose ∘ h.closed.1))]
    refine ⟨?_, {
      position_le := ?_
      position := fun _ => ?_
      closed := by simpa using h.closed
      table := by simpa using h.table }⟩
    · rw [due, if_neg hclose, htable, hposition]
    · -- only a row that is there is stepped over
      cases hrow : c.table.rows[c.position]? with
      | none => exact h.position_le
      | some row => exact (List.getElem?_eq_some_iff.1 hrow).1
    · rw [returned_concat, if_neg nofun, List.length_append, hposition]

/-- **A move returns the row that is due**, and the cursor comes to stand where it should. -/
theorem Standing.make (h : Standing t log c) (m : Move) :
    (c.make m).1 = due t.rows log m ∧ Standing t (log ++ [⟨m, (c.make m).1⟩]) (c.make m).2 := by
  cases m with
  | next => exact h.next
  | rewind => exact ⟨rfl, h.rewind⟩
  | close => exact ⟨rfl, h.close⟩

/-- A closed cursor stands before the rows that it no longer has. -/
theorem Standing.position_of_close (h : Standing t log c) (hclose : .close ∈ log.map Event.move) : c.position = 0 := by
  have hle := h.position_le
  rw [h.table, if_pos hclose] at hle
  exact Nat.le_zero.1 hle

/-- **What is left to return**: nothing of a closed cursor, and else all rows behind those that were returned. -/
theorem Standing.rest_eq (h : Standing t log c) :
    c.rest = if .close ∈ log.map Event.move then [] else t.rows.drop (returned log).length := by
  rw [rest]
  by_cases hclose : .close ∈ log.map Event.move
  · rw [if_pos (h.closed.2 hclose), if_pos hclose]
  · rw [if_neg (hclose ∘ h.closed.1), if_neg hclose, h.position hclose, h.table, if_neg hclose]

theorem Standing.unique (h : Standing t log c) (h' : Standing t log c') : c = c' := by
  have htable : c.table = c'.table := h.table.trans h'.table.symm
  have hclosed : c.closed = c'.closed := Bool.eq_iff_iff.2 (h.closed.trans h'.closed.symm)
  have hposition : c.position = c'.position := by
    by_cases hclose : .close ∈ log.map Event.move
    · rw [h.position_of_close hclose, h'.position_of_close hclose]
    · rw [h.position hclose, h'.position hclose]
  cases c
  cases c'
  cases htable
  cases hclosed
  cases hposition
  rfl

theorem traversed_nil (t : Table) : Traversed t [] [] (ofTable t) where
  made := rfl
  lawful := lawful_nil t.rows
  inOrder := List.nil_prefix
  standing := ⟨Nat.zero_le _, fun _ => rfl, by simp [ofTable], by simp [ofTable]⟩
  left := rfl

/-- **One more move of a traversal.** -/
theorem Traversed.step (h : Traversed t moves log c) (m : Move) :
    Traversed t (moves ++ [m]) (log ++ [⟨m, (c.make m).1⟩]) (c.make m).2 := by
  obtain ⟨hdue, hstanding⟩ := h.standing.make m
  have hlawful : Lawful t.rows (log ++ [⟨m, (c.make m).1⟩]) := lawful_concat_iff.2 ⟨h.lawful, hdue⟩
  have hmade : (log ++ [(⟨m, (c.make m).1⟩ : Event)]).map Event.move = moves ++ [m] := by
    rw [List.map_append, h.made]
    rfl
  exact ⟨hmade, hlawful, hlawful.inOrder, hstanding, by rw [hstanding.rest_eq, hmade]⟩

/-- **All moves of a run traverse the table.** -/
theorem traversed_run (t : Table) (moves : List Move) : Traversed t moves (run t moves).1 (run t moves).2 := by
  induction moves using List.reverseRecOn with
  | nil => exact traversed_nil t
  | append_singleton moves m ih =>
    rw [run, List.foldl_concat]
    exact ih.step m

end

/-- **What a table gives through a cursor**, whatever the moves: each move returns the row that is due, so the rows
returned since the last rewinding are the first of the table in their order, and none comes once the cursor is closed;
the cursor stands behind them, over the table as it was or without its rows, and all rows behind them are left to
return.  Nothing else comes of these moves. -/
theorem run_eq_iff_traversed (t : Table) (moves : List Move) (log : List Event) (c : Cursor) :
    run t moves = (log, c) ↔ Traversed t moves log c := by
  have hrun := traversed_run t moves
  constructor
  · intro h
    rwa [h] at hrun
  · intro h
    obtain rfl := hrun.lawful.unique h.lawful (hrun.made.trans h.made.symm)
    exact Prod.ext rfl (hrun.standing.unique h.standing)

/-- Read to the end and once more, from the start again, and after closing. -/
example : ((run ⟨⟨[.plain "a"]⟩, [[.int 1], [.int 2]]⟩
    [.next, .next, .next, .rewind, .next, .close, .rewind, .next]).1.map Event.row?) =
      [some [.int 1], some [.int 2], none, none, some [.int 1], none, none, none] := rfl

end FacetSql.Cursor
