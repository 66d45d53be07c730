import FacetSql.Proofs.Numeral.Grammar
import FacetSql.Proofs.Numeral.Overflow
/-!
# Decimal — the texts of decimals

A decimal is ASCII digits with an optional point somewhere among them, and an optional exponent behind; the reader
takes exactly these texts and gives each the float nearest to its number (`readDecimal_eq_some_iff`).  What is read and
is no finite float is a decimal at the limit or beyond it, or one of three words (`readReal_infinite_iff`).  A whole
number of 64 bits is not among them (`not_beyond_of_int64`).
-/
namespace FacetSql.Numeral

/-- **The exponent at the end of a decimal**: nothing, or a mark and a whole number. -/
inductive IsExponent : List Char → Int → Prop where
  | none : IsExponent [] 0
  | marked {c : Char} {cs : List Char} {e : Int} (mark : c = 'e' ∨ c = 'E') (numeral : IsNumeral cs e) :
    IsExponent (c :: cs) e

/-- **A decimal** of the number `m * 10 ^ scale`. -/
inductive IsDecimal : List Char → Nat → Int → Prop where
  | whole {ds cs : List Char} {e : Int} (digits : AreDigits ds) (exponent : IsExponent cs e) :
    IsDecimal (ds ++ cs) (Nat.ofDigitChars 10 ds 0) e
  | pointed {ds fs cs : List Char} {e : Int} (digits : AreDigits (ds ++ fs)) (exponent : IsExponent cs e) :
    IsDecimal (ds ++ '.' :: (fs ++ cs)) (Nat.ofDigitChars 10 (ds ++ fs) 0) (e - fs.length)

/-- **A word** for infinity or for what is no number, in any case. -/
def IsWord (cs : List Char) : Prop :=
  String.ofList (cs.map Char.toLower) = "inf" ∨ String.ofList (cs.map Char.toLower) = "infinity" ∨
    String.ofList (cs.map Char.toLower) = "nan"

/-- **An unsigned numeral beyond all floats**: a word, or a decimal at the limit or beyond it. -/
def IsFar (cs : List Char) : Prop := IsWord cs ∨ ∃ m scale, IsDecimal cs m scale ∧ (limit : ℚ) ≤ m * 10 ^ scale

/-- **A numeral beyond all floats**, behind any sign. -/
def Beyond (s : String) : Prop := ∃ cs, (s.toList = cs ∨ s.toList = '+' :: cs ∨ s.toList = '-' :: cs) ∧ IsFar cs

section

variable {cs ds fs : List Char} {c : Char} {e : Int} {x : Float}

/-! ## Exponents -/

theorem IsExponent.not_digit (h : IsExponent (c :: cs) e) : c.isDigit = false := by
  cases h with
  | marked mark =>
    rcases mark with rfl | rfl
    · rfl
    · rfl

theorem ite_areDigits_eq_some_iff {n : Int} :
    (if ds ≠ [] ∧ ds.all Char.isDigit then some n else none) = some e ↔ AreDigits ds ∧ e = n := by
  have hdigits : ds ≠ [] ∧ ds.all Char.isDigit = true ↔ AreDigits ds := and_congr_right fun _ => List.all_eq_true
  by_cases h : AreDigits ds
  · rw [if_pos (hdigits.2 h), and_iff_right h, Option.some.injEq, eq_comm]
  · rw [if_neg (fun hds => h (hdigits.1 hds))]
    exact iff_of_false nofun (fun hds => h hds.1)

theorem readExponent_eq_some_iff : readExponent cs = some e ↔ IsExponent cs e := by
  cases cs with
  | nil =>
    constructor
    · intro h
      cases h
      exact .none
    · intro h
      cases h
      rfl
  | cons c cs =>
    have hmarked : IsExponent (c :: cs) e ↔ (c = 'e' ∨ c = 'E') ∧ IsNumeral cs e :=
      ⟨fun | .marked mark numeral => ⟨mark, numeral⟩, fun h => .marked h.1 h.2⟩
    rw [hmarked]
    unfold readExponent
    dsimp only
    by_cases hmark : c = 'e' ∨ c = 'E'
    · rw [if_pos hmark, and_iff_right hmark]
      split
      · rw [isNumeral_plus_iff]
        exact ite_areDigits_eq_some_iff
      · rw [isNumeral_minus_iff]
        exact ite_areDigits_eq_some_iff
      · rename_i hplus hminus
        rw [isNumeral_unsigned_iff hplus hminus]
        exact ite_areDigits_eq_some_iff
    · rw [if_neg hmark]
      exact iff_of_false nofun (fun h => hmark h.1)

/-! ## Decimals -/

/-- **Digits are split off up to the first other character.** -/
theorem splitDigits_append (hds : ∀ c ∈ ds, c.isDigit = true) (hcs : ∀ c ∈ cs.head?, c.isDigit = false) :
    splitDigits (ds ++ cs) = (ds, cs) := by
  have hhead : cs.takeWhile Char.isDigit = [] ∧ cs.dropWhile Char.isDigit = cs := by
    cases cs with
    | nil => exact ⟨rfl, rfl⟩
    | cons c cs =>
      have hc := hcs c rfl
      rw [List.takeWhile_cons, List.dropWhile_cons, hc]
      exact ⟨rfl, rfl⟩
  rw [splitDigits, List.takeWhile_append_of_pos hds, List.dropWhile_append_of_pos hds, hhead.1, hhead.2,
    List.append_nil]

theorem splitDigits_eq_iff : splitDigits cs = (ds, fs) ↔
    cs = ds ++ fs ∧ (∀ c ∈ ds, c.isDigit = true) ∧ ∀ c ∈ fs.head?, c.isDigit = false := by
  constructor
  · intro h
    cases h
    refine ⟨List.takeWhile_append_dropWhile.symm, fun c hc => List.mem_takeWhile_imp hc, fun c hc => ?_⟩
    have hhead := List.head?_dropWhile_not Char.isDigit cs
    rwa [Option.mem_def.1 hc] at hhead
  · rintro ⟨rfl, hds, hfs⟩
    exact splitDigits_append hds hfs

theorem IsExponent.head (h : IsExponent cs e) : ∀ c ∈ cs.head?, c.isDigit = false := by
  intro c hc
  cases cs with
  | nil => cases hc
  | cons d cs =>
    cases hc
    exact h.not_digit

theorem isDecimal_whole_iff {m : Nat} {scale : Int} (hds : ∀ c ∈ ds, c.isDigit = true)
    (hcs : ∀ c ∈ cs.head?, c.isDigit = false) (hpoint : ∀ fs, cs ≠ '.' :: fs) :
    IsDecimal (ds ++ cs) m scale ↔
      AreDigits ds ∧ IsExponent cs scale ∧ m = Nat.ofDigitChars 10 ds 0 := by
  constructor
  · generalize htext : ds ++ cs = text
    intro h
    have hsplit := splitDigits_append hds hcs
    rw [htext] at hsplit
    cases h with
    | whole digits exponent =>
      rw [splitDigits_append digits.2 exponent.head] at hsplit
      cases hsplit
      exact ⟨digits, exponent, rfl⟩
    | pointed digits exponent =>
      rw [splitDigits_append (fun c hc => digits.2 c (List.mem_append_left _ hc)) (by rintro c ⟨⟩; rfl)] at hsplit
      cases hsplit
      exact absurd rfl (hpoint _)
  · rintro ⟨digits, exponent, rfl⟩
    exact .whole digits exponent

theorem isDecimal_pointed_iff {m : Nat} {scale : Int} (hds : ∀ c ∈ ds, c.isDigit = true)
    (hfs : ∀ c ∈ fs, c.isDigit = true) (hcs : ∀ c ∈ cs.head?, c.isDigit = false) :
    IsDecimal (ds ++ '.' :: (fs ++ cs)) m scale ↔ AreDigits (ds ++ fs) ∧ ∃ e, IsExponent cs e ∧
      m = Nat.ofDigitChars 10 (ds ++ fs) 0 ∧ scale = e - fs.length := by
  constructor
  · generalize htext : ds ++ '.' :: (fs ++ cs) = text
    intro h
    have hsplit : splitDigits (ds ++ '.' :: (fs ++ cs)) = _ := splitDigits_append hds (by rintro c ⟨⟩; rfl)
    rw [htext] at hsplit
    cases h with
    | whole digits exponent =>
      rw [splitDigits_append digits.2 exponent.head] at hsplit
      cases hsplit
      cases exponent with
      | marked mark => exact absurd mark (by decide)
    | pointed digits exponent =>
      rw [splitDigits_append (fun c hc => digits.2 c (List.mem_append_left _ hc)) (by rintro c ⟨⟩; rfl)] at hsplit
      obtain ⟨rfl, hrest⟩ := Prod.mk.inj hsplit
      have hsplit' := splitDigits_append hfs hcs
      rw [← (List.cons.inj hrest).2, splitDigits_append (fun c hc => digits.2 c (List.mem_append_right _ hc))
        exponent.head] at hsplit'
      cases hsplit'
      exact ⟨digits, _, exponent, rfl, rfl⟩
  · rintro ⟨digits, e, exponent, rfl, rfl⟩
    exact .pointed digits exponent

/-- Digits and an exponent that have been split off make a number if there are digits. -/
theorem ite_nearestFloat_eq_some_iff (hds : ∀ c ∈ ds, c.isDigit = true) (hfs : ∀ c ∈ fs, c.isDigit = true) :
    (if ds = [] ∧ fs = [] then none
      else (readExponent cs).map (fun e => nearestFloat (digitsFrom 0 (ds ++ fs)) (e - fs.length))) = some x ↔
    AreDigits (ds ++ fs) ∧ ∃ e, IsExponent cs e ∧
      nearestFloat (Nat.ofDigitChars 10 (ds ++ fs) 0) (e - fs.length) = x := by
  by_cases hempty : ds = [] ∧ fs = []
  · rw [if_pos hempty]
    exact iff_of_false nofun (fun h => h.1.1 (List.append_eq_nil_iff.2 hempty))
  · have digits : AreDigits (ds ++ fs) := by
      refine ⟨fun h => hempty (List.append_eq_nil_iff.1 h), fun c hc => ?_⟩
      exact (List.mem_append.1 hc).elim (hds c) (hfs c)
    rw [if_neg hempty, and_iff_right digits, Option.map_eq_some_iff]
    exact exists_congr fun e => and_congr_left' readExponent_eq_some_iff

/-- **The reader takes the decimals**, and gives each the float nearest to it. -/
theorem readDecimal_eq_some_iff : readDecimal cs = some x ↔
    ∃ m scale, IsDecimal cs m scale ∧ nearestFloat m scale = x := by
  obtain ⟨ds, rest, hsplit⟩ : ∃ ds rest, splitDigits cs = (ds, rest) := ⟨_, _, rfl⟩
  obtain ⟨rfl, hds, hrest⟩ := splitDigits_eq_iff.1 hsplit
  unfold readDecimal
  rw [hsplit]
  dsimp only
  -- behind the leading digits stands a point, or the exponent already
  split
  · rename_i behind
    obtain ⟨fs, tail, hsplit'⟩ : ∃ fs tail, splitDigits behind = (fs, tail) := ⟨_, _, rfl⟩
    obtain ⟨rfl, hfs, htail⟩ := splitDigits_eq_iff.1 hsplit'
    rw [hsplit']
    refine (ite_nearestFloat_eq_some_iff hds hfs).trans ?_
    simp only [isDecimal_pointed_iff hds hfs htail]
    constructor
    · rintro ⟨digits, e, exponent, hx⟩
      exact ⟨_, _, ⟨digits, e, exponent, rfl, rfl⟩, hx⟩
    · rintro ⟨_, _, ⟨digits, e, exponent, rfl, rfl⟩, hx⟩
      exact ⟨digits, e, exponent, hx⟩
  · rename_i hpoint
    refine (ite_nearestFloat_eq_some_iff hds (fun _ h => absurd h List.not_mem_nil)).trans ?_
    rw [List.append_nil, List.length_nil, Nat.cast_zero]
    simp only [isDecimal_whole_iff hds hrest hpoint, Int.sub_zero]
    constructor
    · rintro ⟨digits, e, exponent, hx⟩
      exact ⟨_, e, ⟨digits, exponent, rfl⟩, hx⟩
    · rintro ⟨_, e, ⟨digits, exponent, rfl⟩, hx⟩
      exact ⟨digits, e, exponent, hx⟩

/-! ## Numerals beyond all floats -/

theorem IsDecimal.head {m : Nat} {scale : Int} (h : IsDecimal (c :: cs) m scale) : c.isDigit = true ∨ c = '.' := by
  generalize htext : c :: cs = text at h
  cases h with
  | @whole ds _ _ digits =>
    cases ds with
    | nil => exact absurd rfl digits.1
    | cons d ds =>
      cases htext
      exact .inl digits.head
  | @pointed ds _ _ _ digits =>
    cases ds with
    | nil =>
      cases htext
      exact .inr rfl
    | cons d ds =>
      cases htext
      exact .inl digits.head

theorem IsWord.head (h : IsWord (c :: cs)) : c.toLower = 'i' ∨ c.toLower = 'n' := by
  have hhead : ∀ s : String, String.ofList ((c :: cs).map Char.toLower) = s → s.toList.head? = some c.toLower := by
    rintro _ rfl
    rw [String.toList_ofList, List.map_cons, List.head?_cons]
  rcases h with h | h | h
  · exact .inl (Option.some.inj (hhead _ h)).symm
  · exact .inl (Option.some.inj (hhead _ h)).symm
  · exact .inr (Option.some.inj (hhead _ h)).symm

theorem readUnsigned_infinite_iff : (∃ x, readUnsigned cs = some x ∧ x.isFinite = false) ↔ IsFar cs := by
  have hdecimal : (∃ x, readDecimal cs = some x ∧ x.isFinite = false) ↔
      ∃ m scale, IsDecimal cs m scale ∧ (limit : ℚ) ≤ m * 10 ^ scale := by
    simp only [readDecimal_eq_some_iff, ← not_lt, ← isFinite_nearestFloat_iff, Bool.not_eq_true]
    constructor
    · rintro ⟨_, ⟨m, scale, h, rfl⟩, hx⟩
      exact ⟨m, scale, h, hx⟩
    · rintro ⟨m, scale, h, hx⟩
      exact ⟨_, ⟨m, scale, h, rfl⟩, hx⟩
  unfold readUnsigned
  dsimp only
  by_cases hinfinite : String.ofList (cs.map Char.toLower) = "inf" ∨ String.ofList (cs.map Char.toLower) = "infinity"
  · rw [if_pos hinfinite]
    exact iff_of_true ⟨infinity, rfl, by decide⟩ (.inl (hinfinite.imp_right .inl))
  · rw [if_neg hinfinite]
    by_cases hnan : String.ofList (cs.map Char.toLower) = "nan"
    · rw [if_pos hnan]
      exact iff_of_true ⟨notANumber, rfl, by decide⟩ (.inl (.inr (.inr hnan)))
    · have hword : ¬ IsWord cs := fun h => h.elim (fun h => hinfinite (.inl h))
        (fun h => h.elim (fun h => hinfinite (.inr h)) hnan)
      rw [if_neg hnan, hdecimal]
      exact (or_iff_right hword).symm

theorem not_isFar_sign (hsign : c = '+' ∨ c = '-') : ¬ IsFar (c :: cs) := by
  rintro (hword | ⟨m, scale, hdecimal, -⟩)
  · have hhead := hword.head
    rcases hsign with rfl | rfl
    · exact absurd hhead (by decide)
    · exact absurd hhead (by decide)
  · have hhead := hdecimal.head
    rcases hsign with rfl | rfl
    · exact absurd hhead (by decide)
    · exact absurd hhead (by decide)

theorem beyond_signed_iff {s : String} (hsign : c = '+' ∨ c = '-') (hs : s.toList = c :: cs) : Beyond s ↔ IsFar cs := by
  constructor
  · rintro ⟨cs', hs' | hs' | hs', h⟩
    · exact absurd (hs'.symm.trans hs ▸ h) (not_isFar_sign hsign)
    · rwa [(List.cons.inj (hs.symm.trans hs')).2]
    · rwa [(List.cons.inj (hs.symm.trans hs')).2]
  · intro h
    rcases hsign with rfl | rfl
    · exact ⟨cs, .inr (.inl hs), h⟩
    · exact ⟨cs, .inr (.inr hs), h⟩

theorem beyond_unsigned_iff {s : String} (hplus : ∀ cs, s.toList ≠ '+' :: cs) (hminus : ∀ cs, s.toList ≠ '-' :: cs) :
    Beyond s ↔ IsFar s.toList := by
  constructor
  · rintro ⟨cs, rfl | hs | hs, h⟩
    · exact h
    · exact absurd hs (hplus cs)
    · exact absurd hs (hminus cs)
  · exact fun h => ⟨_, .inl rfl, h⟩

/-- **A text is read as no finite float exactly if it is a numeral beyond all floats.** -/
theorem readReal_infinite_iff {s : String} : (∃ x, readReal s = some x ∧ x.isFinite = false) ↔ Beyond s := by
  unfold readReal
  split
  · rename_i cs hs
    rw [beyond_signed_iff (.inl rfl) hs]
    exact readUnsigned_infinite_iff
  · rename_i cs hs
    rw [beyond_signed_iff (.inr rfl) hs, ← readUnsigned_infinite_iff]
    simp only [Option.map_eq_some_iff]
    constructor
    · rintro ⟨_, ⟨x, hx, rfl⟩, hfinite⟩
      exact ⟨x, hx, isFinite_neg x ▸ hfinite⟩
    · rintro ⟨x, hx, hfinite⟩
      exact ⟨_, ⟨x, hx, rfl⟩, (isFinite_neg x).trans hfinite⟩
  · rename_i hplus hminus
    rw [beyond_unsigned_iff hplus hminus]
    exact readUnsigned_infinite_iff

theorem toLower_of_isDigit (h : c.isDigit = true) : c.toLower = c := by
  rw [Char.isDigit, Bool.and_eq_true, decide_eq_true_iff, decide_eq_true_iff] at h
  rw [Char.toLower, dif_neg]
  rintro ⟨hletter, -⟩
  exact absurd (UInt32.le_trans hletter h.2) (by decide)

theorem AreDigits.not_isFar (digits : AreDigits cs) (hfits : Nat.ofDigitChars 10 cs 0 < limit) : ¬ IsFar cs := by
  rintro (hword | ⟨m, scale, hdecimal, hfar⟩)
  · cases cs with
    | nil => exact digits.1 rfl
    | cons c cs =>
      have hhead := hword.head
      rw [toLower_of_isDigit digits.head] at hhead
      rcases hhead with rfl | rfl
      · exact absurd digits.head (by decide)
      · exact absurd digits.head (by decide)
  · rw [← List.append_nil cs, isDecimal_whole_iff digits.2 (by rintro c ⟨⟩) (by rintro fs ⟨⟩)] at hdecimal
    obtain ⟨-, exponent, rfl⟩ := hdecimal
    cases exponent
    rw [zpow_zero, mul_one, Nat.cast_le] at hfar
    exact absurd hfits (Nat.not_lt.2 hfar)

/-- **A whole number of 64 bits is not beyond all floats.** -/
theorem not_beyond_of_int64 {s : String} {n : Int} (h : int64.read s = .ok n) : ¬ Beyond s := by
  obtain ⟨hnumeral, hholds⟩ := int64_read_eq_ok_iff.1 h
  rw [int64_holds_iff] at hholds
  have hlimit : 2 ^ 63 < limit := by decide +kernel
  generalize htext : s.toList = text at hnumeral
  cases hnumeral with
  | unsigned digits =>
    have hsign : ∀ c, c.isDigit = false → ∀ cs, s.toList ≠ c :: cs := by
      rintro c hc cs hs
      rw [(htext.symm.trans hs : text = c :: cs)] at digits
      exact absurd digits.head (by rw [hc]; decide)
    rw [beyond_unsigned_iff (hsign '+' rfl) (hsign '-' rfl), htext]
    exact digits.not_isFar (by omega)
  | plus digits =>
    rw [beyond_signed_iff (.inl rfl) htext]
    exact digits.not_isFar (by omega)
  | minus digits =>
    rw [beyond_signed_iff (.inr rfl) htext]
    exact digits.not_isFar (by omega)

end

end FacetSql.Numeral
