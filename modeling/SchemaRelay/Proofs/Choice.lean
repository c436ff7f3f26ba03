import Mathlib.Data.List.Forall2
import Mathlib.Data.List.Pairwise
import SchemaRelay.Tool.Selection

/-!
# Choices in order

A choice may stand before another if it alone is in use, or if both are in one group and its label is not greater,
letter case aside. All choices can be compared (`before_total`), and those that may stand either way round tie: they
have the same group and the same label (`ties_iff_before`).

Two lists in order are equal if each tie has the same choices in the same sequence in both (`eq_of_filter_ties`).
Sorting keeps those sequences (`filter_ties_sortChoices`), so there is one way to put choices in order, and it depends on
nothing but them (`choices_ordered`).
-/

namespace SchemaRelay

namespace SchemaChoice

variable {a b c : SchemaChoice} {cs ds : List SchemaChoice}

/-! ## The order -/

/-- Both choices are in one group and have the same label, letter case aside. -/
def ties (a b : SchemaChoice) : Bool :=
  a.usedForCurrentFile = b.usedForCurrentFile && a.sortLabel = b.sortLabel

theorem ties_iff : a.ties b = true ↔ a.usedForCurrentFile = b.usedForCurrentFile ∧ a.sortLabel = b.sortLabel := by
  simp [ties]

theorem ties_self (a : SchemaChoice) : a.ties a = true := ties_iff.2 ⟨rfl, rfl⟩

theorem before_iff : a.before b = true ↔
    (b.usedForCurrentFile = true → a.usedForCurrentFile = true) ∧
      (a.usedForCurrentFile = b.usedForCurrentFile → a.sortLabel ≤ b.sortLabel) := by
  unfold before
  cases a.usedForCurrentFile <;> cases b.usedForCurrentFile <;> simp

theorem before_trans (a b c : SchemaChoice) (hab : a.before b = true) (hbc : b.before c = true) :
    a.before c = true := by
  rw [before_iff] at hab hbc ⊢
  refine ⟨fun hc => hab.1 (hbc.1 hc), fun hac => ?_⟩
  -- what stands between two choices of one group is in that group
  have hgroup : a.usedForCurrentFile = b.usedForCurrentFile := by
    cases ha : a.usedForCurrentFile with
    | true => exact (hbc.1 (hac ▸ ha)).symm
    | false =>
      cases hb : b.usedForCurrentFile with
      | true => exact absurd (hab.1 hb) (by simp [ha])
      | false => rfl
  exact String.le_trans (hab.2 hgroup) (hbc.2 (hgroup.symm.trans hac))

theorem before_total (a b : SchemaChoice) : (a.before b || b.before a) = true := by
  rw [Bool.or_eq_true, before_iff, before_iff]
  by_cases hgroup : a.usedForCurrentFile = b.usedForCurrentFile
  · rcases String.le_total a.sortLabel b.sortLabel with h | h
    · exact .inl ⟨fun hb => hgroup.trans hb, fun _ => h⟩
    · exact .inr ⟨fun ha => hgroup.symm.trans ha, fun _ => h⟩
  · cases ha : a.usedForCurrentFile with
    | true => exact .inl ⟨fun _ => rfl, fun h => absurd (ha.trans h) hgroup⟩
    | false =>
      have hb : b.usedForCurrentFile = true := by
        cases hb : b.usedForCurrentFile with
        | true => rfl
        | false => exact absurd (ha.trans hb.symm) hgroup
      exact .inr ⟨fun _ => hb, fun h => absurd (ha.trans h.symm) hgroup⟩

/-- Choices that may stand either way round tie. -/
theorem ties_iff_before : a.ties b = true ↔ a.before b = true ∧ b.before a = true := by
  rw [ties_iff, before_iff, before_iff]
  constructor
  · rintro ⟨hgroup, hlabel⟩
    rw [hgroup, hlabel]
    exact ⟨⟨id, fun _ => String.le_refl _⟩, id, fun _ => String.le_refl _⟩
  · rintro ⟨⟨hab, hle⟩, hba, hge⟩
    have hgroup : a.usedForCurrentFile = b.usedForCurrentFile := Bool.eq_iff_iff.2 ⟨hba, hab⟩
    exact ⟨hgroup, String.le_antisymm (hle hgroup) (hge hgroup.symm)⟩

/-! ## Lists in order -/

/-- The first of a list in order stands before everything in it. -/
theorem before_of_mem (h : (a :: cs).Pairwise (before · ·)) (hb : b ∈ a :: cs) : a.before b = true := by
  rcases List.mem_cons.1 hb with rfl | hb
  · exact (ties_iff_before.1 (ties_self b)).1
  · exact (List.pairwise_cons.1 h).1 b hb

/-- Lists with the same choices in each tie have the same choices. -/
theorem mem_iff_of_filter_ties (h : ∀ c : SchemaChoice, cs.filter c.ties = ds.filter c.ties) (c : SchemaChoice) :
    c ∈ cs ↔ c ∈ ds := by
  have hc : c ∈ cs.filter c.ties ↔ c ∈ ds.filter c.ties := by rw [h c]
  simpa [ties_self] using hc

/-- A list in order is known by the sequence of choices in each tie. -/
theorem eq_of_filter_ties (hcs : cs.Pairwise (before · ·)) (hds : ds.Pairwise (before · ·))
    (h : ∀ c : SchemaChoice, cs.filter c.ties = ds.filter c.ties) : cs = ds := by
  induction cs generalizing ds with
  | nil =>
    cases ds with
    | nil => rfl
    | cons d ds => exact absurd ((mem_iff_of_filter_ties h d).2 List.mem_cons_self) List.not_mem_nil
  | cons c cs ih =>
    obtain _ | ⟨d, ds⟩ := ds
    · exact absurd ((mem_iff_of_filter_ties h c).1 List.mem_cons_self) List.not_mem_nil
    -- Each of the two heads is in the other list, so they tie, and come first in what ties with them.
    have hcd : c.before d = true := before_of_mem hcs ((mem_iff_of_filter_ties h d).2 List.mem_cons_self)
    have hdc : d.before c = true := before_of_mem hds ((mem_iff_of_filter_ties h c).1 List.mem_cons_self)
    have hties : c.ties d = true := ties_iff_before.2 ⟨hcd, hdc⟩
    obtain rfl : c = d := by
      have hfirst := h c
      rw [List.filter_cons_of_pos (ties_self c), List.filter_cons_of_pos hties] at hfirst
      exact (List.cons.inj hfirst).1
    have htail : ∀ e : SchemaChoice, cs.filter e.ties = ds.filter e.ties := by
      intro e
      have he := h e
      by_cases hec : e.ties c = true
      · rw [List.filter_cons_of_pos hec, List.filter_cons_of_pos hec] at he
        exact (List.cons.inj he).2
      · rwa [List.filter_cons_of_neg hec, List.filter_cons_of_neg hec] at he
    rw [ih (List.pairwise_cons.1 hcs).2 (List.pairwise_cons.1 hds).2 htail]

/-! ## Sorting -/

theorem sortChoices_perm (cs : List SchemaChoice) : (sortChoices cs).Perm cs := List.mergeSort_perm cs before

theorem pairwise_sortChoices (cs : List SchemaChoice) : (sortChoices cs).Pairwise (before · ·) :=
  List.pairwise_mergeSort before_trans before_total cs

/-- Sorting keeps the sequence of choices that tie. -/
theorem filter_ties_sortChoices (c : SchemaChoice) (cs : List SchemaChoice) :
    (sortChoices cs).filter c.ties = cs.filter c.ties := by
  have htied : (cs.filter c.ties).Pairwise (before · ·) := by
    refine List.pairwise_of_forall_mem_list fun a ha b hb => ?_
    have hca := ties_iff.1 (List.mem_filter.1 ha).2
    have hcb := ties_iff.1 (List.mem_filter.1 hb).2
    exact (ties_iff_before.1 (ties_iff.2 ⟨hca.1.symm.trans hcb.1, hca.2.symm.trans hcb.2⟩)).1
  have hsub : (cs.filter c.ties).Sublist (sortChoices cs) :=
    List.sublist_mergeSort before_trans before_total htied List.filter_sublist
  have hfilter : (cs.filter c.ties).Sublist ((sortChoices cs).filter c.ties) := by
    have htwice := hsub.filter c.ties
    simpa only [List.filter_filter, Bool.and_self] using htwice
  exact (hfilter.eq_of_length ((sortChoices_perm cs).filter c.ties).length_eq.symm).symm

/-- **A list in order**: the same choices, those in use first, each group by label, letter case aside, and what ties in
the sequence that it had. -/
structure Ordered (cs ds : List SchemaChoice) : Prop where
  perm : ds.Perm cs
  used : ds.Pairwise fun a b => b.usedForCurrentFile = true → a.usedForCurrentFile = true
  ascending : ds.Pairwise fun a b => a.usedForCurrentFile = b.usedForCurrentFile → a.sortLabel ≤ b.sortLabel
  stable : ∀ c : SchemaChoice, ds.filter c.ties = cs.filter c.ties

/-- There is one way to put choices in order. -/
theorem ordered_iff : Ordered cs ds ↔ sortChoices cs = ds := by
  constructor
  · intro h
    have hds : ds.Pairwise (before · ·) := (h.used.and h.ascending).imp before_iff.2
    refine eq_of_filter_ties (pairwise_sortChoices cs) hds fun c => ?_
    rw [filter_ties_sortChoices, h.stable]
  · rintro rfl
    have hsorted := (pairwise_sortChoices cs).imp before_iff.1
    exact ⟨sortChoices_perm cs, hsorted.imp And.left, hsorted.imp And.right, fun c => filter_ties_sortChoices c cs⟩

/-- Choices are put into the same order just when each tie has the same choices in the same sequence. -/
theorem sortChoices_eq_iff :
    sortChoices cs = sortChoices ds ↔ ∀ c : SchemaChoice, cs.filter c.ties = ds.filter c.ties := by
  constructor
  · intro h c
    rw [← filter_ties_sortChoices c cs, h, filter_ties_sortChoices]
  · intro h
    refine eq_of_filter_ties (pairwise_sortChoices cs) (pairwise_sortChoices ds) fun c => ?_
    rw [filter_ties_sortChoices, filter_ties_sortChoices, h]

/-! ## What is written -/

/-- The item of a document shows a choice: it has the choice's label, and what is read from it is the choice. -/
def Shows (c : SchemaChoice) (item : Json) : Prop :=
  item.get? "label" = some (.str c.label) ∧ ofJson item = .ok c

theorem shows_labelled (c : SchemaChoice) : c.Shows (Tool.labelled c) := by
  obtain ⟨⟨name, description, uri⟩, used, fromStore⟩ := c
  refine ⟨rfl, ?_⟩
  cases name <;> cases description <;> rfl

/-- What putting choices in order comes to. -/
structure ChoicesOrdered : Prop where
  order : ∀ cs ds, Ordered cs ds ↔ sortChoices cs = ds
  /-- The label is the name, or else the URI, and the description after a space. -/
  label : ∀ c : SchemaChoice, c.sortLabel = Text.lowercase c.label ∧
    c.label = c.schema.name.getD c.schema.uri ++ c.schema.description.elim "" fun d => " " ++ d
  again : ∀ cs, sortChoices (sortChoices cs) = sortChoices cs
  /-- The order depends only on the choices and on the sequence of those that tie. -/
  arranged : ∀ cs ds, sortChoices cs = sortChoices ds ↔
    cs.Perm ds ∧ ∀ c : SchemaChoice, cs.filter c.ties = ds.filter c.ties
  /-- The tool writes one item for each choice, with its own label, in that order. -/
  written : ∀ cs, ∃ items, Tool.choices cs = (Json.arr items).pretty ∧ List.Forall₂ Shows (sortChoices cs) items

/-- **Choices are put in order**, in the one way there is, and are written so with their labels. -/
theorem choices_ordered : ChoicesOrdered where
  order _ _ := ordered_iff
  label c := by
    refine ⟨rfl, ?_⟩
    unfold label SchemaInfo.displayName
    cases c.schema.description with
    | none => simp
    | some d => exact String.append_assoc
  again cs := sortChoices_eq_iff.2 fun c => filter_ties_sortChoices c cs
  arranged cs ds := by
    rw [sortChoices_eq_iff]
    refine ⟨fun h => ⟨?_, h⟩, And.right⟩
    have hsame := sortChoices_eq_iff.2 h
    exact (sortChoices_perm cs).symm.trans (hsame ▸ sortChoices_perm ds)
  written cs := by
    refine ⟨(sortChoices cs).map Tool.labelled, rfl, ?_⟩
    rw [List.forall₂_map_right_iff]
    exact List.forall₂_same.2 fun c _ => shows_labelled c

end SchemaChoice

end SchemaRelay
