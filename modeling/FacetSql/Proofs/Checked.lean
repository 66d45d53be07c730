import FacetSql.Failure
import Mathlib.Data.List.Forall2
/-!
# Checked — steps that may fail

A sequence of steps succeeds if each of them does.  So what succeeded is taken apart step by step (`bind_eq_ok_iff`),
item by item (`mapM_eq_ok_iff`), or by what each item keeps (`foldlM_induction`).  A step that fits raises no compile
failure (`Fits`), and neither does a sequence of such steps.  How a step may end is said of its values and its failures
together (`Ends`), and a sequence ends as its steps do.
-/
namespace FacetSql

variable {ε α β : Type}

/-- **A sequence of two steps succeeds if both do.** -/
theorem bind_eq_ok_iff {x : Except ε α} {f : α → Except ε β} {b : β} :
    (x >>= f) = .ok b ↔ ∃ a, x = .ok a ∧ f a = .ok b := by
  cases x with
  | error e =>
    constructor
    · intro h
      cases h
    · rintro ⟨_, h, -⟩
      cases h
  | ok a =>
    constructor
    · exact fun h => ⟨a, rfl, h⟩
    · rintro ⟨_, ha, h⟩
      cases ha
      exact h

/-- **Two sequences agree if they do behind every success of their first step.** -/
theorem bind_congr_of_ok {x : Except ε α} {f g : α → Except ε β} (h : ∀ a, x = .ok a → f a = g a) :
    (x >>= f) = (x >>= g) := by
  cases x with
  | error e => rfl
  | ok a => exact h a rfl

theorem map_eq_ok_iff {x : Except ε α} {f : α → β} {b : β} : x.map f = .ok b ↔ ∃ a, x = .ok a ∧ f a = b := by
  cases x with
  | error e =>
    constructor
    · intro h
      cases h
    · rintro ⟨_, h, -⟩
      cases h
  | ok a =>
    constructor
    · exact fun h => ⟨a, rfl, Except.ok.inj h⟩
    · rintro ⟨_, ha, rfl⟩
      cases ha
      rfl

/-- **The same step on every item succeeds if it does on each.** -/
theorem mapM_eq_ok_iff {f : α → Except Failure β} {as : List α} {bs : List β} :
    as.mapM f = .ok bs ↔ List.Forall₂ (fun a b => f a = .ok b) as bs := by
  induction as generalizing bs with
  | nil =>
    rw [List.mapM_nil, List.forall₂_nil_left_iff]
    exact ⟨fun h => (Except.ok.inj h).symm, fun h => h ▸ rfl⟩
  | cons a as ih =>
    rw [List.mapM_cons, List.forall₂_cons_left_iff]
    constructor
    · intro h
      obtain ⟨b, hb, h⟩ := bind_eq_ok_iff.1 h
      obtain ⟨bs', hbs, h⟩ := bind_eq_ok_iff.1 h
      exact ⟨b, bs', hb, ih.1 hbs, (Except.ok.inj h).symm⟩
    · rintro ⟨b, bs', hb, hbs, rfl⟩
      exact bind_eq_ok_iff.2 ⟨b, hb, bind_eq_ok_iff.2 ⟨bs', ih.2 hbs, rfl⟩⟩

theorem exists_of_mem_right {R : α → β → Prop} {as : List α} {bs : List β} (h : List.Forall₂ R as bs) {b : β}
    (hb : b ∈ bs) : ∃ a ∈ as, R a b := by
  induction h with
  | nil => cases hb
  | cons hab _ ih =>
    rcases List.mem_cons.1 hb with rfl | hb
    · exact ⟨_, List.mem_cons_self, hab⟩
    · obtain ⟨a, ha, hR⟩ := ih hb
      exact ⟨a, List.mem_cons_of_mem _ ha, hR⟩

/-- **Items related to items that are related in turn** are related through them. -/
theorem forall₂_trans {γ : Type} {R : α → β → Prop} {S : β → γ → Prop} {T : α → γ → Prop}
    (hT : ∀ a b c, R a b → S b c → T a c) {as : List α} {bs : List β} {cs : List γ} (hR : List.Forall₂ R as bs)
    (hS : List.Forall₂ S bs cs) : List.Forall₂ T as cs := by
  induction hR generalizing cs with
  | nil =>
    cases hS
    exact .nil
  | cons hab _ ih =>
    cases hS with
    | cons hbc hrest => exact .cons (hT _ _ _ hab hbc) (ih hrest)

/-- **What the items give is given by one of them.** -/
theorem mem_mapM_iff {f : α → Except Failure β} {as : List α} {bs : List β} (h : as.mapM f = .ok bs) (b : β) :
    b ∈ bs ↔ ∃ a ∈ as, f a = .ok b := by
  rw [mapM_eq_ok_iff] at h
  constructor
  · exact exists_of_mem_right h
  · rintro ⟨a, ha, hab⟩
    obtain ⟨b', hb', hab'⟩ := exists_of_mem_right h.flip ha
    rwa [Except.ok.inj (hab.symm.trans hab')]

/-- **What each item keeps is kept in their order.** -/
theorem map_eq_of_mapM {γ : Type} {f : α → Except Failure β} {kept : β → γ} {given : α → γ} {as : List α} {bs : List β}
    (h : as.mapM f = .ok bs) (step : ∀ a ∈ as, ∀ b, f a = .ok b → kept b = given a) : bs.map kept = as.map given := by
  rw [mapM_eq_ok_iff] at h
  induction h with
  | nil => rfl
  | cons hab _ ih =>
    rw [List.map_cons, List.map_cons, step _ List.mem_cons_self _ hab,
      ih (fun a ha => step a (List.mem_cons_of_mem _ ha))]

theorem mapM_eq_ok_of_forall {f : α → Except Failure β} {R : α → β → Prop} {as : List α}
    (h : ∀ a ∈ as, ∃ b, f a = .ok b ∧ R a b) : ∃ bs, as.mapM f = .ok bs ∧ List.Forall₂ R as bs := by
  induction as with
  | nil => exact ⟨[], rfl, .nil⟩
  | cons a as ih =>
    obtain ⟨b, hb, hab⟩ := h a List.mem_cons_self
    obtain ⟨bs, hbs, hR⟩ := ih (fun a ha => h a (List.mem_cons_of_mem _ ha))
    exact ⟨b :: bs, mapM_eq_ok_iff.2 (.cons hb (mapM_eq_ok_iff.1 hbs)), .cons hab hR⟩

theorem exists_mapM_eq_ok {f : α → Except Failure β} {as : List α} (h : ∀ a ∈ as, ∃ b, f a = .ok b) :
    ∃ bs, as.mapM f = .ok bs := by
  obtain ⟨bs, hbs, -⟩ := mapM_eq_ok_of_forall (R := fun _ _ => True)
    (fun a ha => (h a ha).imp (fun _ hb => ⟨hb, trivial⟩))
  exact ⟨bs, hbs⟩

/-- **What every step keeps holds behind them all.** -/
theorem foldlM_induction {f : β → α → Except Failure β} {motive : β → Prop} {as : List α} {b b' : β}
    (h : as.foldlM f b = .ok b') (hb : motive b)
    (step : ∀ b a c, a ∈ as → motive b → f b a = .ok c → motive c) : motive b' := by
  induction as generalizing b with
  | nil =>
    cases h
    exact hb
  | cons a as ih =>
    obtain ⟨c, hc, h⟩ := bind_eq_ok_iff.1 h
    exact ih h (step b a c List.mem_cons_self hb hc) (fun b a c ha => step b a c (List.mem_cons_of_mem _ ha))

/-- **Steps that agree on every item have runs that agree.** -/
theorem foldlM_congr {f g : β → α → Except ε β} {as : List α} (h : ∀ b, ∀ a ∈ as, f b a = g b a) (b : β) :
    as.foldlM f b = as.foldlM g b := by
  induction as generalizing b with
  | nil => rfl
  | cons a as ih =>
    rw [List.foldlM_cons, List.foldlM_cons, h b a List.mem_cons_self]
    exact bind_congr fun c => ih (fun b a ha => h b a (List.mem_cons_of_mem _ ha)) c

/-- **The step raises no compile failure**: if it fails, all names and clauses fit together nevertheless. -/
def Fits (x : Except Failure α) : Prop := ∀ fault, x ≠ .error (.compile fault)

/-- **How a step ends**: with a value of which `holds` is true, or with a failure of which `fails` is. -/
def Ends (fails : Failure → Prop) (holds : α → Prop) : Except Failure α → Prop
  | .ok a => holds a
  | .error e => fails e

/-- **The step raises a compile failure.** -/
def Misfits (x : Except Failure α) : Prop := ∃ fault, x = .error (.compile fault)

namespace Fits

theorem ok (a : α) : Fits (.ok a) := nofun

theorem not_misfits {x : Except Failure α} (hx : Fits x) : ¬ Misfits x := fun ⟨fault, h⟩ => hx fault h

theorem bind {x : Except Failure α} {f : α → Except Failure β} (hx : Fits x) (hf : ∀ a, x = .ok a → Fits (f a)) :
    Fits (x >>= f) := by
  cases x with
  | error e => exact fun fault h => hx fault (congrArg Except.error (Except.error.inj h))
  | ok a => exact hf a rfl

end Fits

namespace Ends

variable {fails : Failure → Prop} {holds : α → Prop} {after : β → Prop}

theorem of_ok {x : Except Failure α} {a : α} (hx : Ends fails holds x) (h : x = .ok a) : holds a := by
  rwa [h] at hx

theorem mono {fails' : Failure → Prop} {holds' : α → Prop} {x : Except Failure α} (hx : Ends fails holds x)
    (hfails : ∀ e, fails e → fails' e) (hholds : ∀ a, holds a → holds' a) : Ends fails' holds' x := by
  cases x with
  | error e => exact hfails e hx
  | ok a => exact hholds a hx

theorem of_succeeds {x : Except Failure α} (hx : Ends fails (fun _ => True) x) (h : ∀ a, x = .ok a → holds a) :
    Ends fails holds x := by
  cases x with
  | error e => exact hx
  | ok a => exact h a rfl

/-- **A sequence of two steps ends as the second does** behind a value that the first may end with. -/
theorem bind {x : Except Failure α} {f : α → Except Failure β} (hx : Ends fails holds x)
    (hf : ∀ a, holds a → Ends fails after (f a)) : Ends fails after (x >>= f) := by
  cases x with
  | error e => exact hx
  | ok a => exact hf a hx

/-- **The same step on every item ends with one value for each.** -/
theorem mapM {f : α → Except Failure β} {as : List α} (h : ∀ a ∈ as, Ends fails after (f a)) :
    Ends fails (fun bs => bs.length = as.length ∧ ∀ b ∈ bs, after b) (as.mapM f) := by
  induction as with
  | nil => exact ⟨rfl, fun b hb => absurd hb List.not_mem_nil⟩
  | cons a as ih =>
    rw [List.mapM_cons]
    refine (h a List.mem_cons_self).bind (fun b hb => ?_)
    refine (ih (fun a ha => h a (List.mem_cons_of_mem _ ha))).bind (fun bs hbs => ?_)
    refine ⟨by rw [List.length_cons, List.length_cons, hbs.1], fun b' hb' => ?_⟩
    rcases List.mem_cons.1 hb' with rfl | hb'
    · exact hb
    · exact hbs.2 b' hb'

theorem foldlM {f : β → α → Except Failure β} {as : List α} {b : β} (hb : after b)
    (h : ∀ b, after b → ∀ a ∈ as, Ends fails after (f b a)) : Ends fails after (as.foldlM f b) := by
  induction as generalizing b with
  | nil => exact hb
  | cons a as ih =>
    rw [List.foldlM_cons]
    refine (h b hb a List.mem_cons_self).bind (fun b' hb' => ?_)
    exact ih hb' (fun b hb a ha => h b hb a (List.mem_cons_of_mem _ ha))

theorem fits {x : Except Failure α} (hx : Ends fails holds x) (hfails : ∀ fault, ¬ fails (.compile fault)) :
    Fits x := by
  rintro fault rfl
  exact hfails fault hx

end Ends

theorem Misfits.bind {x : Except Failure α} (hx : Misfits x) (f : α → Except Failure β) : Misfits (x >>= f) := by
  obtain ⟨fault, rfl⟩ := hx
  exact ⟨fault, rfl⟩

/-- **If each step succeeds or raises a compile failure, and one of them fails, they all raise one.** -/
theorem misfits_mapM {f : α → Except Failure β} {as : List α} (hall : ∀ a ∈ as, (∃ b, f a = .ok b) ∨ Misfits (f a))
    {a : α} (ha : a ∈ as) (hm : Misfits (f a)) : Misfits (as.mapM f) := by
  induction as with
  | nil => cases ha
  | cons a' as ih =>
    rw [List.mapM_cons]
    rcases hall a' List.mem_cons_self with ⟨b, hb⟩ | hm'
    · rw [hb]
      rcases List.mem_cons.1 ha with rfl | ha
      · exact absurd hm ((hb ▸ Fits.ok b : Fits (f a)).not_misfits)
      · exact (ih (fun a ha => hall a (List.mem_cons_of_mem _ ha)) ha).bind _
    · exact hm'.bind _

end FacetSql
