import FacetSql.Proofs.Filter.Translation
/-!
# Pattern — the texts that are like a pattern

A pattern of LIKE and a wildcard of the engine are both read as pieces: any text, any one character, or a character for
itself.  The shortest texts that pieces cover tell the pieces, all but those for any text (`fixed_eq_of_covers_iff`).
A pattern is handed on with two of its characters exchanged, so the engine reads the others in its own way: the wildcard
fits the texts that are like the pattern exactly if no character of the pattern is one of the engine's own
(`translatesLike_iff`).
-/
namespace FacetSql

namespace Pattern

open Query (wildcardChar)

/-- **What a part of a pattern stands for.** -/
inductive Piece where
  | any
  | one
  | only (c : Char)
  deriving DecidableEq

/-- **Pieces cover a text**, one part of it after the other. -/
def Covers : List Piece → List Char → Prop
  | [], s => s = []
  | .any :: ps, s => ∃ front rest, s = front ++ rest ∧ Covers ps rest
  | .one :: ps, s => ∃ c rest, s = c :: rest ∧ Covers ps rest
  | .only c :: ps, s => ∃ rest, s = c :: rest ∧ Covers ps rest

/-- A character of a pattern: the percent sign is any text, and the underscore any one character. -/
def likePiece (c : Char) : Piece :=
  if c = '%' then .any else if c = '_' then .one else .only c

/-- **A text is like a pattern.** -/
def Like (p s : String) : Prop := Covers (p.toList.map likePiece) s.toList

/-- A character of a wildcard: the star is any text, and the question mark any one character. -/
def wildcardPiece (c : Char) : Piece :=
  if c = '*' then .any else if c = '?' then .one else .only c

/-- **The pieces of a wildcard.**  A backslash takes the next character for itself.  Behind the last one no character is
next: an engine that is lenient takes it for itself, and any other one fits no text. -/
def wildcardPieces (lenient : Bool) : List Char → Option (List Piece)
  | [] => some []
  | c :: w =>
    if c = '\\' then
      match w with
      | [] => if lenient then some [.only '\\'] else none
      | d :: w => (wildcardPieces lenient w).map (.only d :: ·)
    else (wildcardPieces lenient w).map (wildcardPiece c :: ·)

/-- **A wildcard fits a text.** -/
def WildcardFits (lenient : Bool) (w s : String) : Prop :=
  ∃ ps, wildcardPieces lenient w.toList = some ps ∧ Covers ps s.toList

/-- **No character is one of the engine's own**: no star, no question mark, and no backslash but the last character of a
pattern for an engine that is lenient. -/
structure Ordinary (lenient : Bool) (p : List Char) : Prop where
  star : '*' ∉ p
  question : '?' ∉ p
  backslash : '\\' ∉ if lenient then p.dropLast else p

/-! ## The shortest texts -/

section

variable {p q : Piece} {ps qs : List Piece} {s t : List Char} {c : Char}

/-- The pieces that stand for one character each. -/
def fixed (ps : List Piece) : List Piece := ps.filter (· ≠ .any)

theorem any_not_mem_fixed (ps : List Piece) : .any ∉ fixed ps := by
  intro hm
  simpa using (List.mem_filter.1 hm).2

theorem length_fixed_le (h : Covers ps s) : (fixed ps).length ≤ s.length := by
  induction ps generalizing s with
  | nil => exact Nat.zero_le _
  | cons p ps ih =>
    cases p with
    | any =>
      obtain ⟨front, rest, rfl, hrest⟩ := h
      rw [List.length_append]
      exact Nat.le_add_left_of_le (ih hrest)
    | one =>
      obtain ⟨c, rest, rfl, hrest⟩ := h
      exact Nat.succ_le_succ (ih hrest)
    | only c =>
      obtain ⟨rest, rfl, hrest⟩ := h
      exact Nat.succ_le_succ (ih hrest)

/-- **A shortest text leaves nothing to any text**, and is covered without it. -/
theorem covers_fixed_iff : Covers (fixed ps) s ↔ Covers ps s ∧ s.length ≤ (fixed ps).length := by
  induction ps generalizing s with
  | nil =>
    refine ⟨fun h => ⟨h, ?_⟩, fun h => h.1⟩
    rw [show s = [] from h]
    exact Nat.le_refl 0
  | cons p ps ih =>
    cases p with
    | any =>
      constructor
      · intro h
        obtain ⟨hs, hlen⟩ := ih.1 h
        exact ⟨⟨[], s, rfl, hs⟩, hlen⟩
      · rintro ⟨⟨front, rest, rfl, hrest⟩, hlen⟩
        have hfront : front = [] := by
          have hmin := length_fixed_le hrest
          change (front ++ rest).length ≤ (fixed ps).length at hlen
          rw [List.length_append] at hlen
          exact List.length_eq_zero_iff.1 (by omega)
        subst hfront
        exact ih.2 ⟨hrest, hlen⟩
    | one =>
      constructor
      · rintro ⟨c, rest, rfl, hrest⟩
        obtain ⟨hs, hlen⟩ := ih.1 hrest
        exact ⟨⟨c, rest, rfl, hs⟩, Nat.succ_le_succ hlen⟩
      · rintro ⟨⟨c, rest, rfl, hrest⟩, hlen⟩
        exact ⟨c, rest, rfl, ih.2 ⟨hrest, Nat.le_of_succ_le_succ hlen⟩⟩
    | only c =>
      constructor
      · rintro ⟨rest, rfl, hrest⟩
        obtain ⟨hs, hlen⟩ := ih.1 hrest
        exact ⟨⟨rest, rfl, hs⟩, Nat.succ_le_succ hlen⟩
      · rintro ⟨⟨rest, rfl, hrest⟩, hlen⟩
        exact ⟨rest, rfl, ih.2 ⟨hrest, Nat.le_of_succ_le_succ hlen⟩⟩

/-- The piece stands for the character. -/
def Piece.Takes : Piece → Char → Prop
  | .any, _ => False
  | .one, _ => True
  | .only c, d => d = c

theorem Piece.exists_takes (hp : p ≠ .any) : ∃ c, p.Takes c := by
  cases p with
  | any => exact absurd rfl hp
  | one => exact ⟨'a', trivial⟩
  | only c => exact ⟨c, rfl⟩

theorem Piece.eq_of_takes_iff (hp : p ≠ .any) (hq : q ≠ .any) (h : ∀ c, p.Takes c ↔ q.Takes c) : p = q := by
  -- one character for itself is not all of them
  have hother : ∀ c : Char, ∃ d, d ≠ c := fun c =>
    if hc : 'a' = c then ⟨'b', fun hb => absurd (hc.trans hb.symm) (by decide)⟩ else ⟨'a', hc⟩
  cases p with
  | any => exact absurd rfl hp
  | one =>
    cases q with
    | any => exact absurd rfl hq
    | one => rfl
    | only c =>
      obtain ⟨d, hd⟩ := hother c
      exact absurd ((h d).1 trivial) hd
  | only c =>
    cases q with
    | any => exact absurd rfl hq
    | one =>
      obtain ⟨d, hd⟩ := hother c
      exact absurd ((h d).2 trivial) hd
    | only d => exact congrArg Piece.only ((h c).1 rfl)

theorem covers_cons_iff (hp : p ≠ .any) : Covers (p :: ps) (c :: s) ↔ p.Takes c ∧ Covers ps s := by
  cases p with
  | any => exact absurd rfl hp
  | one =>
    constructor
    · rintro ⟨d, rest, heq, hrest⟩
      cases heq
      exact ⟨trivial, hrest⟩
    · exact fun h => ⟨c, s, rfl, h.2⟩
  | only d =>
    constructor
    · rintro ⟨rest, heq, hrest⟩
      cases heq
      exact ⟨rfl, hrest⟩
    · rintro ⟨hc, hs⟩
      exact ⟨s, by rw [show c = d from hc], hs⟩

theorem not_covers_cons_nil (hp : p ≠ .any) : ¬ Covers (p :: ps) [] := by
  cases p with
  | any => exact absurd rfl hp
  | one =>
    rintro ⟨_, _, heq, -⟩
    cases heq
  | only d =>
    rintro ⟨_, heq, -⟩
    cases heq

theorem exists_covers (hps : .any ∉ ps) : ∃ s, Covers ps s := by
  induction ps with
  | nil => exact ⟨[], rfl⟩
  | cons p ps ih =>
    rw [List.mem_cons, not_or] at hps
    obtain ⟨c, hc⟩ := Piece.exists_takes (Ne.symm hps.1)
    obtain ⟨s, hs⟩ := ih hps.2
    exact ⟨c :: s, (covers_cons_iff (Ne.symm hps.1)).2 ⟨hc, hs⟩⟩

/-- **Pieces for one character each are told by the texts that they cover.** -/
theorem eq_of_covers_iff (hps : .any ∉ ps) (hqs : .any ∉ qs) (h : ∀ s, Covers ps s ↔ Covers qs s) : ps = qs := by
  induction ps generalizing qs with
  | nil =>
    cases qs with
    | nil => rfl
    | cons q qs =>
      rw [List.mem_cons, not_or] at hqs
      exact absurd ((h []).1 rfl) (not_covers_cons_nil (Ne.symm hqs.1))
  | cons p ps ih =>
    rw [List.mem_cons, not_or] at hps
    have hp := Ne.symm hps.1
    cases qs with
    | nil => exact absurd ((h []).2 rfl) (not_covers_cons_nil hp)
    | cons q qs =>
      rw [List.mem_cons, not_or] at hqs
      have hq := Ne.symm hqs.1
      have hcons : ∀ c s, p.Takes c ∧ Covers ps s ↔ q.Takes c ∧ Covers qs s := by
        intro c s
        rw [← covers_cons_iff hp, ← covers_cons_iff hq]
        exact h (c :: s)
      obtain ⟨s, hs⟩ := exists_covers hps.2
      obtain ⟨t, ht⟩ := exists_covers hqs.2
      have hpq : p = q := Piece.eq_of_takes_iff hp hq
        (fun c => ⟨fun hc => ((hcons c s).1 ⟨hc, hs⟩).1, fun hc => ((hcons c t).2 ⟨hc, ht⟩).1⟩)
      obtain ⟨c, hc⟩ := Piece.exists_takes hp
      have hrest : ∀ s, Covers ps s ↔ Covers qs s := fun s =>
        ⟨fun hs => ((hcons c s).1 ⟨hc, hs⟩).2, fun hs => ((hcons c s).2 ⟨hpq ▸ hc, hs⟩).2⟩
      rw [hpq, ih hps.2 hqs.2 hrest]

/-- **Pieces that cover the same texts are the same**, but for the places of any text. -/
theorem fixed_eq_of_covers_iff (h : ∀ s, Covers ps s ↔ Covers qs s) : fixed ps = fixed qs := by
  have hle : ∀ {ps qs : List Piece}, (∀ s, Covers ps s ↔ Covers qs s) → (fixed qs).length ≤ (fixed ps).length := by
    intro ps qs h
    obtain ⟨s, hs⟩ := exists_covers (any_not_mem_fixed ps)
    obtain ⟨hs, hlen⟩ := covers_fixed_iff.1 hs
    exact Nat.le_trans (length_fixed_le ((h s).1 hs)) hlen
  have hlen : (fixed ps).length = (fixed qs).length := Nat.le_antisymm (hle fun s => (h s).symm) (hle h)
  refine eq_of_covers_iff (any_not_mem_fixed ps) (any_not_mem_fixed qs) (fun s => ?_)
  rw [covers_fixed_iff, covers_fixed_iff, h, hlen]

end

/-! ## The characters of a pattern -/

section

variable {lenient : Bool} {c : Char} {p : List Char} {q : Piece} {ps : List Piece}

theorem ordinary_nil (lenient : Bool) : Ordinary lenient [] := by
  refine ⟨List.not_mem_nil, List.not_mem_nil, ?_⟩
  cases lenient <;> exact List.not_mem_nil

theorem ordinary_cons_iff : Ordinary lenient (c :: p) ↔
    c ≠ '*' ∧ c ≠ '?' ∧ (c = '\\' → lenient = true ∧ p = []) ∧ Ordinary lenient p := by
  have hback : ('\\' ∉ if lenient then (c :: p).dropLast else c :: p) ↔
      (c = '\\' → lenient = true ∧ p = []) ∧ '\\' ∉ if lenient then p.dropLast else p := by
    cases lenient <;> cases p <;> simp [eq_comm]
  constructor
  · rintro ⟨hstar, hquestion, hbackslash⟩
    rw [List.mem_cons, not_or] at hstar hquestion
    rw [hback] at hbackslash
    exact ⟨Ne.symm hstar.1, Ne.symm hquestion.1, hbackslash.1, hstar.2, hquestion.2, hbackslash.2⟩
  · rintro ⟨hstar, hquestion, hlast, h⟩
    refine ⟨?_, ?_, hback.2 ⟨hlast, h.backslash⟩⟩
    · rw [List.mem_cons, not_or]
      exact ⟨Ne.symm hstar, h.star⟩
    · rw [List.mem_cons, not_or]
      exact ⟨Ne.symm hquestion, h.question⟩

theorem wildcardChar_ne_backslash (hc : c ≠ '\\') : wildcardChar c ≠ '\\' := by
  unfold wildcardChar
  split
  · decide
  · split
    · decide
    · exact hc

theorem wildcardPieces_cons (hc : c ≠ '\\') : wildcardPieces lenient ((c :: p).map wildcardChar) =
    (wildcardPieces lenient (p.map wildcardChar)).map (wildcardPiece (wildcardChar c) :: ·) := by
  rw [List.map_cons, wildcardPieces.eq_def]
  exact if_neg (wildcardChar_ne_backslash hc)

theorem wildcardPieces_escaped (c : Char) (p : List Char) :
    wildcardPieces lenient (('\\' :: c :: p).map wildcardChar) =
      (wildcardPieces lenient (p.map wildcardChar)).map (.only (wildcardChar c) :: ·) := rfl

/-- What the engine makes of a character: the same, unless the character is one of its own. -/
theorem wildcardPiece_wildcardChar (hstar : c ≠ '*') (hquestion : c ≠ '?') :
    wildcardPiece (wildcardChar c) = likePiece c := by
  unfold wildcardChar likePiece
  split
  · rfl
  · split
    · rfl
    · rw [wildcardPiece, if_neg hstar, if_neg hquestion]

/-- **An ordinary pattern is read the same way by the engine.** -/
theorem wildcardPieces_of_ordinary (h : Ordinary lenient p) :
    wildcardPieces lenient (p.map wildcardChar) = some (p.map likePiece) := by
  induction p with
  | nil => rfl
  | cons c p ih =>
    obtain ⟨hstar, hquestion, hlast, hp⟩ := ordinary_cons_iff.1 h
    by_cases hc : c = '\\'
    · obtain ⟨rfl, rfl⟩ := hlast hc
      rw [hc]
      rfl
    · rw [wildcardPieces_cons hc, ih hp, wildcardPiece_wildcardChar hstar hquestion]
      rfl

theorem length_fixed_le_cons (q : Piece) (qs : List Piece) : (fixed qs).length ≤ (fixed (q :: qs)).length := by
  rw [fixed, fixed, List.filter_cons]
  split
  · exact Nat.le_succ _
  · exact Nat.le_refl _

theorem fixed_cons (hq : q ≠ .any) (qs : List Piece) : fixed (q :: qs) = q :: fixed qs :=
  List.filter_cons_of_pos (by simpa using hq)

/-- **The engine never asks for more characters than the pattern does.** -/
theorem length_fixed_wildcardPieces_le (h : wildcardPieces lenient (p.map wildcardChar) = some ps) :
    (fixed ps).length ≤ (fixed (p.map likePiece)).length := by
  induction p using wildcardPieces.induct lenient generalizing ps with
  | case1 =>
    cases h
    exact Nat.le_refl 0
  | case2 hlenient =>
    cases hlenient
    cases h
    exact Nat.le_refl 1
  | case3 hlenient =>
    cases lenient with
    | true => exact absurd rfl hlenient
    | false => cases h
  | case4 c p ih =>
    rw [wildcardPieces_escaped] at h
    obtain ⟨qs, hqs, rfl⟩ := Option.map_eq_some_iff.1 h
    exact Nat.succ_le_succ (Nat.le_trans (ih hqs) (length_fixed_le_cons (likePiece c) (p.map likePiece)))
  | case5 c p hc ih =>
    rw [wildcardPieces_cons hc] at h
    obtain ⟨qs, hqs, rfl⟩ := Option.map_eq_some_iff.1 h
    have hle := ih hqs
    rw [List.map_cons]
    by_cases hlike : likePiece c = .any
    · have hpercent : c = '%' := by
        unfold likePiece at hlike
        split at hlike
        · assumption
        · split at hlike <;> cases hlike
      rw [hpercent]
      exact hle
    · rw [fixed_cons hlike]
      by_cases hown : wildcardPiece (wildcardChar c) = .any
      · rw [hown]
        exact Nat.le_succ_of_le hle
      · rw [fixed_cons hown]
        exact Nat.succ_le_succ hle

/-- **A pattern with the same pieces for the engine is ordinary.** -/
theorem ordinary_of_fixed_eq (h : wildcardPieces lenient (p.map wildcardChar) = some ps)
    (heq : fixed ps = fixed (p.map likePiece)) : Ordinary lenient p := by
  induction p using wildcardPieces.induct lenient generalizing ps with
  | case1 => exact ordinary_nil lenient
  | case2 hlenient => exact ordinary_cons_iff.2 ⟨by decide, by decide, fun _ => ⟨hlenient, rfl⟩, ordinary_nil lenient⟩
  | case3 hlenient =>
    cases lenient with
    | true => exact absurd rfl hlenient
    | false => cases h
  | case4 c p ih =>
    -- the pattern asks for the backslash besides the character behind it
    rw [wildcardPieces_escaped] at h
    obtain ⟨qs, hqs, rfl⟩ := Option.map_eq_some_iff.1 h
    have hcons : Piece.only (wildcardChar c) :: fixed qs = .only '\\' :: fixed ((c :: p).map likePiece) := heq
    rw [List.cons.injEq, Piece.only.injEq] at hcons
    have hc : c = '\\' := Decidable.byContradiction fun hc => wildcardChar_ne_backslash hc hcons.1
    have hlen := congrArg List.length hcons.2
    rw [hc] at hlen
    change _ = (fixed (p.map likePiece)).length + 1 at hlen
    have hle := length_fixed_wildcardPieces_le hqs
    omega
  | case5 c p hc ih =>
    rw [wildcardPieces_cons hc] at h
    obtain ⟨qs, hqs, rfl⟩ := Option.map_eq_some_iff.1 h
    rw [List.map_cons] at heq
    have hstar : c ≠ '*' := by
      rintro rfl
      have hlen := congrArg List.length heq
      change (fixed qs).length = (fixed (p.map likePiece)).length + 1 at hlen
      have hle := length_fixed_wildcardPieces_le hqs
      omega
    have hquestion : c ≠ '?' := by
      rintro rfl
      have hcons : Piece.one :: fixed qs = .only '?' :: fixed (p.map likePiece) := heq
      cases (List.cons.inj hcons).1
    rw [wildcardPiece_wildcardChar hstar hquestion] at heq
    have hrest : fixed qs = fixed (p.map likePiece) := by
      by_cases hany : likePiece c = .any
      · rwa [hany] at heq
      · rw [fixed_cons hany, fixed_cons hany] at heq
        exact (List.cons.inj heq).2
    exact ordinary_cons_iff.2 ⟨hstar, hquestion, fun h => absurd h hc, ih hqs hrest⟩

end

/-- **The wildcard of a pattern fits the texts that are like it** exactly if the pattern is ordinary. -/
theorem fits_wildcard_iff_like_iff (lenient : Bool) (p : String) :
    (∀ s, WildcardFits lenient (Query.wildcard (.text p)) s ↔ Like p s) ↔ Ordinary lenient p.toList := by
  have hchars : (Query.wildcard (.text p)).toList = p.toList.map wildcardChar := String.toList_map
  constructor
  · intro h
    obtain ⟨s, hs⟩ := exists_covers (any_not_mem_fixed (p.toList.map likePiece))
    have hlike : Like p (String.ofList s) := by
      rw [Like, String.toList_ofList]
      exact (covers_fixed_iff.1 hs).1
    obtain ⟨ps, hps, -⟩ := (h _).2 hlike
    rw [hchars] at hps
    refine ordinary_of_fixed_eq hps (fixed_eq_of_covers_iff (fun s => ?_))
    have hs := h (String.ofList s)
    rw [WildcardFits, Like, hchars, hps, String.toList_ofList] at hs
    simpa only [Option.some.injEq, exists_eq_left'] using hs
  · intro h s
    rw [WildcardFits, Like, hchars, wildcardPieces_of_ordinary h]
    simp only [Option.some.injEq, exists_eq_left']

end Pattern

namespace Query

open Sql Pattern

theorem filterOf_like_eq_ok_iff {operand pattern : Expr} {isNegated : Bool} {escape : Option Char} {f : Filter} :
    filterOf (.like operand isNegated pattern escape) = .ok f ↔ ∃ field j, fieldName operand = .ok field ∧
      constant pattern = .ok j ∧ f = .negatedIf isNegated (.matching field (wildcard j)) := by
  rw [filterOf]
  constructor
  · intro h
    obtain ⟨field, hf, h⟩ := bind_eq_ok_iff.1 h
    obtain ⟨j, hj, h⟩ := bind_eq_ok_iff.1 h
    exact ⟨field, j, hf, hj, (Except.ok.inj h).symm⟩
  · rintro ⟨field, j, hf, hj, rfl⟩
    exact bind_eq_ok_iff.2 ⟨field, hf, bind_eq_ok_iff.2 ⟨j, hj, rfl⟩⟩

/-- **The filter of LIKE accepts the documents whose text is like the pattern**, whatever field is named and however the
pattern is written; with a negation it accepts all others. -/
def TranslatesLike (lenient : Bool) (p : String) : Prop :=
  ∀ r : Reading String, (∀ w s, r.fits w s ↔ WildcardFits lenient w s) →
    ∀ (operand pattern : Expr) (isNegated : Bool) (f : Filter), constant pattern = .ok (.text p) →
      filterOf (.like operand isNegated pattern none) = .ok f →
        ∀ d : Document String, Accepts r d f.toJson ↔ NotIf isNegated (∃ s, valueOf r d operand = some s ∧ Like p s)

theorem translatesLike_iff_fits (lenient : Bool) (p : String) :
    TranslatesLike lenient p ↔ ∀ s, WildcardFits lenient (wildcard (.text p)) s ↔ Like p s := by
  constructor
  · intro h s
    -- a document whose every field is the text
    have hs := h ⟨fun _ => "", fun _ _ => False, fun _ _ => False, WildcardFits lenient⟩ (fun _ _ => Iff.rfl)
      (.name ⟨"a", none⟩) (.literal (.text p)) false _ rfl rfl (fun _ => some s)
    rw [accepts_negatedIf, accepts_matching] at hs
    simpa only [NotIf, valueOf, Option.some.injEq, exists_eq_left', Bool.false_eq_true, if_false] using hs
  · intro h r hr operand pattern isNegated f hp hf d
    obtain ⟨field, j, hfield, hj, rfl⟩ := filterOf_like_eq_ok_iff.1 hf
    rw [hp] at hj
    cases hj
    rw [accepts_negatedIf, accepts_matching, valueOf_of_fieldName r d hfield]
    exact notIf_congr isNegated (exists_congr fun s => and_congr_right fun _ => (hr _ s).trans (h s))

/-- **A pattern is translated exactly if it is ordinary**: no star, no question mark, and no backslash but at the end
for an engine that takes it for itself there. -/
theorem translatesLike_iff (lenient : Bool) (p : String) : TranslatesLike lenient p ↔ Ordinary lenient p.toList :=
  (translatesLike_iff_fits lenient p).trans (fits_wildcard_iff_like_iff lenient p)

/-- The star of a pattern becomes any text. -/
theorem not_translatesLike_star : ¬ TranslatesLike true "a*b" ∧ ¬ TranslatesLike false "a*b" := by
  have hstar : ∀ lenient, ¬ TranslatesLike lenient "a*b" := by
    intro lenient h
    rw [translatesLike_iff_fits, fits_wildcard_iff_like_iff] at h
    exact h.star (by decide)
  exact ⟨hstar true, hstar false⟩

end Query
end FacetSql
