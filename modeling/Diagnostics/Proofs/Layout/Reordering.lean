import Diagnostics.Proofs.Layout.PlainRows
import Mathlib.Data.Fin.VecNotation
import Mathlib.Data.List.FinRange
import Mathlib.Data.List.Perm.Basic
import Mathlib.Logic.Equiv.Basic

/-! # The order in which highlights came in

Highlights are drawn by the column on which they start, so what is left of the order in which they
came in is the order of those that share a line and a start. If this is kept, an excerpt is laid out
in the same rows, however much its highlights and their notes overlap.
-/
namespace Diagnostics

/-- Highlights that share a line and a start are drawn in the order in which they came in. -/
def Highlight.Tied (g h : Highlight) : Prop := g.line = h.line ∧ g.start = h.start

/-- The highlights of a list stand at other places of a second one, but tied ones in their order. -/
def KeepsTies (hs ks : List Highlight) : Prop :=
  ∃ place : Fin hs.length ≃ Fin ks.length, (∀ i, ks.get (place i) = hs.get i) ∧
    ∀ i j, i < j → (hs.get i).Tied (hs.get j) → place i < place j

section Places
variable {α : Type} {xs ys : List α}

theorem map_finRange_perm (place : Fin xs.length ≃ Fin ys.length) :
    ((List.finRange xs.length).map place).Perm (List.finRange ys.length) := by
  refine (List.perm_ext_iff_of_nodup ?_ (List.nodup_finRange _)).mpr ?_
  · exact (List.nodup_finRange _).map place.injective
  · intro j
    simp only [List.mem_map, List.mem_finRange, true_and, iff_true]
    exact place.surjective j

variable (place : Fin xs.length ≃ Fin ys.length) (hplace : ∀ i, ys.get (place i) = xs.get i)
include hplace

theorem perm_of_places : xs.Perm ys := by
  have hmap := (map_finRange_perm place).map ys.get
  have hxs : ((List.finRange xs.length).map place).map ys.get = xs := by
    rw [List.map_map, ← List.ofFn_eq_map]
    exact (congrArg List.ofFn (funext hplace)).trans (List.ofFn_get xs)
  rwa [hxs, ← List.ofFn_eq_map, List.ofFn_get] at hmap

/-- Where places rise along the elements that are kept, these are in one order in both lists. -/
theorem filter_eq_of_places {keep : α → Bool}
    (hrise : ∀ i j, i < j → keep (xs.get i) = true → keep (xs.get j) = true → place i < place j) :
    xs.filter keep = ys.filter keep := by
  -- Both lists are read off the places that are kept, and two rising lists of the same places are one.
  have hfilter : ∀ zs : List α,
      zs.filter keep = ((List.finRange zs.length).filter fun i => keep (zs.get i)).map zs.get := by
    intro zs
    conv_lhs => rw [← List.ofFn_get zs, List.ofFn_eq_map, List.filter_map]
    rfl
  have hkept : (((List.finRange xs.length).filter fun i => keep (xs.get i)).map place).Perm
      ((List.finRange ys.length).filter fun j => keep (ys.get j)) := by
    have hperm := (map_finRange_perm place).filter fun j => keep (ys.get j)
    rw [List.filter_map] at hperm
    have hcongr : ((fun j => keep (ys.get j)) ∘ place) = fun i => keep (xs.get i) := by
      funext i
      exact congrArg keep (hplace i)
    rwa [hcongr] at hperm
  have hplaces : ((List.finRange xs.length).filter fun i => keep (xs.get i)).map place =
      (List.finRange ys.length).filter fun j => keep (ys.get j) := by
    refine hkept.eq_of_pairwise ?_ ?_ ((List.pairwise_lt_finRange _).filter _)
    · intro i j _ _ hij hji
      exact absurd hij (lt_asymm hji)
    · refine List.pairwise_map.mpr ?_
      have hrising := (List.pairwise_lt_finRange xs.length).filter fun i => keep (xs.get i)
      refine hrising.imp_of_mem ?_
      intro i j hi hj hij
      exact hrise i j hij (List.mem_filter.mp hi).2 (List.mem_filter.mp hj).2
  rw [hfilter xs, hfilter ys, ← hplaces, List.map_map]
  exact List.map_congr_left fun i _ => (hplace i).symm

end Places

/-- Two lists hold the same highlights, and those that are tied in one order. -/
structure SameTies (hs ks : List Highlight) : Prop where
  perm : hs.Perm ks
  tied : ∀ number start : Int,
    ((hs.filter fun h => h.line = number).filter fun h => h.start = start) =
      (ks.filter fun h => h.line = number).filter fun h => h.start = start

section Ties
variable {hs ks : List Highlight}

theorem KeepsTies.sameTies (h : KeepsTies hs ks) : SameTies hs ks := by
  obtain ⟨place, hplace, hties⟩ := h
  refine ⟨perm_of_places place hplace, ?_⟩
  intro number start
  rw [List.filter_filter, List.filter_filter]
  refine filter_eq_of_places place hplace ?_
  intro i j hij hi hj
  simp only [Bool.and_eq_true, decide_eq_true_eq] at hi hj
  exact hties i j hij ⟨hi.2.trans hj.2.symm, hi.1.trans hj.1.symm⟩

theorem sameTies_of_perm (hperm : hs.Perm ks)
    (hstarts : ∀ number : Int, ((hs.filter fun h => h.line = number).map Highlight.start).Nodup) :
    SameTies hs ks := by
  refine ⟨hperm, ?_⟩
  intro number start
  have hkept := (hperm.filter fun h => h.line = number).filter fun h => h.start = start
  have hapart : ∀ ls : List Highlight, (ls.map Highlight.start).Nodup →
      (ls.filter fun h => h.start = start).Pairwise fun g h => g.start ≠ h.start :=
    fun ls hls => (List.pairwise_map.mp hls).filter _
  refine hkept.eq_of_pairwise ?_ (hapart _ (hstarts number)) (hapart _ ?_)
  · intro g h hg hh hne
    simp only [List.mem_filter, decide_eq_true_eq] at hg hh
    exact absurd (hg.2.trans hh.2.symm) hne
  · exact ((hperm.filter _).map _).nodup_iff.mp (hstarts number)

theorem start_le_of_starts_eq {x y : Highlight} {xs ys : List Highlight}
    (hys : (y :: ys).Pairwise fun a b => a.start ≤ b.start)
    (h : ((x :: xs).filter fun h => h.start = x.start) =
      (y :: ys).filter fun h => h.start = x.start) : y.start ≤ x.start := by
  have hx : x ∈ (x :: xs).filter fun h => h.start = x.start := by simp
  rw [h] at hx
  rcases List.mem_cons.mp (List.mem_filter.mp hx).1 with rfl | hmem
  · exact Int.le_refl _
  · exact List.rel_of_pairwise_cons hys hmem

theorem eq_of_starts_eq {xs ys : List Highlight} (hxs : xs.Pairwise fun a b => a.start ≤ b.start)
    (hys : ys.Pairwise fun a b => a.start ≤ b.start)
    (h : ∀ s : Int, (xs.filter fun h => h.start = s) = ys.filter fun h => h.start = s) : xs = ys := by
  induction xs generalizing ys with
  | nil =>
    cases ys with
    | nil => rfl
    | cons y ys => simpa using h y.start
  | cons x xs ih =>
    cases ys with
    | nil => simpa using h x.start
    | cons y ys =>
      have hstart : x.start = y.start :=
        Int.le_antisymm (start_le_of_starts_eq hxs (h y.start).symm)
          (start_le_of_starts_eq hys (h x.start))
      have hfirst := h x.start
      rw [List.filter_cons_of_pos (by simp), List.filter_cons_of_pos (by simp [hstart])] at hfirst
      obtain ⟨rfl, hrest⟩ := List.cons.inj hfirst
      refine congrArg (x :: ·) (ih hxs.of_cons hys.of_cons ?_)
      intro s
      by_cases hs : x.start = s
      · exact hs ▸ hrest
      · have hsame := h s
        rwa [List.filter_cons_of_neg (by simpa using hs),
          List.filter_cons_of_neg (by simpa using hs)] at hsame

theorem DrawnInOrder.eq_of_starts_eq {order order' : List Highlight} (h : DrawnInOrder hs order)
    (h' : DrawnInOrder ks order')
    (hstarts : ∀ s : Int, (hs.filter fun h => h.start = s) = ks.filter fun h => h.start = s) :
    order = order' := by
  refine Diagnostics.eq_of_starts_eq h.sorted h'.sorted ?_
  intro s
  rw [h.stable, h'.stable, hstarts]

end Ties

namespace Excerpt
variable {e e' : Excerpt}

theorem drawingOrder_highlightsOn (h : SameTies e.highlights e'.highlights) (number : Int) :
    drawingOrder (e.highlightsOn number) = drawingOrder (e'.highlightsOn number) :=
  (drawnInOrder_drawingOrder _).eq_of_starts_eq (drawnInOrder_drawingOrder _) (h.tied number)

theorem markerRow_highlightsOn (h : SameTies e.highlights e'.highlights) (width : Nat)
    (number : Int) :
    markerRow width (e.highlightsOn number) = markerRow width (e'.highlightsOn number) := by
  unfold markerRow markerCells
  rw [drawingOrder_highlightsOn h]

theorem highlightsOn_eq_nil_iff (h : SameTies e.highlights e'.highlights) (number : Int) :
    e.highlightsOn number = [] ↔ e'.highlightsOn number = [] := by
  have hperm : (e.highlightsOn number).Perm (e'.highlightsOn number) := h.perm.filter _
  rw [← List.length_eq_zero_iff, hperm.length_eq, List.length_eq_zero_iff]

theorem place_of_length_ne {file : String} (h : e.highlights.length ≠ 1) : e.place file = file := by
  unfold place
  split
  · next hone => exact absurd (congrArg List.length hone) h
  · rfl

theorem place_eq_of_perm (h : e.highlights.Perm e'.highlights) (file : String) :
    e.place file = e'.place file := by
  by_cases hone : e.highlights.length = 1
  · obtain ⟨g, hg⟩ := List.length_eq_one_iff.mp hone
    rw [hg] at h
    rw [place, place, hg, List.singleton_perm.mp h]
  · rw [place_of_length_ne hone, place_of_length_ne (h.length_eq ▸ hone)]

/-- Of the highlights, an excerpt is laid out by no more than which they are and how they are
tied. -/
theorem rows_eq_of_sameTies (hlines : e.lines = e'.lines) (hfile : e.file = e'.file)
    (h : SameTies e.highlights e'.highlights) : e.rows = e'.rows := by
  have hwidth : e.gutterWidth = e'.gutterWidth := by
    unfold gutterWidth maxNumber
    rw [hlines]
  have hplaceRow : e.placeRow = e'.placeRow := by
    funext file
    unfold placeRow
    rw [hwidth, place_eq_of_perm h.perm]
  have hrowsOf : e.rowsOf = e'.rowsOf := by
    funext l
    have hempty : (e.highlightsOn l.number).isEmpty = (e'.highlightsOn l.number).isEmpty := by
      rw [Bool.eq_iff_iff, List.isEmpty_iff, List.isEmpty_iff, highlightsOn_eq_nil_iff h]
    unfold rowsOf
    dsimp only
    rw [hwidth, hempty, markerRow_highlightsOn h]
  rw [rows_eq, rows_eq, hlines, hfile, hplaceRow, hrowsOf]

end Excerpt

/-- Two excerpts of the same lines and file are laid out in the same rows if the highlights of one
are those of the other in some order in which tied ones keep theirs, and so in any order at all if
no two highlights of a line start on one column. -/
theorem layout_of_reordered {e e' : Excerpt} (hlines : e.lines = e'.lines) (hfile : e.file = e'.file) :
    (KeepsTies e.highlights e'.highlights → ∀ style, e.layout style = e'.layout style) ∧
    (e.highlights.Perm e'.highlights →
      (∀ number, ((e.highlightsOn number).map Highlight.start).Nodup) →
      ∀ style, e.layout style = e'.layout style) := by
  have hlayout : SameTies e.highlights e'.highlights →
      ∀ style, e.layout style = e'.layout style := by
    intro h style
    rw [Excerpt.layout, Excerpt.layout, Excerpt.rows_eq_of_sameTies hlines hfile h]
  exact ⟨fun h => hlayout h.sameTies, fun hperm hstarts => hlayout (sameTies_of_perm hperm hstarts)⟩

/-- Two highlights start on one column, and the note of a third one runs into both. -/
def tied : Excerpt :=
  ⟨[⟨7, "let x = 1"⟩, ⟨8, "in x"⟩], [⟨7, 4, 5, some "one", .error⟩, ⟨8, 0, 2, none, .info⟩,
    ⟨7, 0, 3, some "a note", .info⟩, ⟨7, 4, 4, none, .warning⟩], some "a.ml"⟩

def tiedElsewhere : Excerpt :=
  { tied with highlights := [⟨7, 0, 3, some "a note", .info⟩, ⟨7, 4, 5, some "one", .error⟩,
    ⟨7, 4, 4, none, .warning⟩, ⟨8, 0, 2, none, .info⟩] }

def apart : Excerpt :=
  { tied with highlights := [⟨7, 4, 5, some "one", .error⟩, ⟨8, 0, 2, none, .info⟩,
    ⟨7, 0, 3, some "a note", .info⟩] }

def apartReversed : Excerpt := { apart with highlights := apart.highlights.reverse }

example : tied.layout .plain =
    [" --> a.ml", "7 | let x = 1", "  | --- ~ onee", "8 | in x", "  | --"] := by cbv

theorem layout_of_reordered_tied :
    KeepsTies tied.highlights tiedElsewhere.highlights ∧
    (∀ style, tied.layout style = tiedElsewhere.layout style) ∧
    apart.highlights.Perm apartReversed.highlights ∧
    (∀ number, ((apart.highlightsOn number).map Highlight.start).Nodup) ∧
    ∀ style, apart.layout style = apartReversed.layout style := by
  have hties : KeepsTies tied.highlights tiedElsewhere.highlights := by
    let place : Fin 4 ≃ Fin 4 :=
      ⟨![1, 3, 0, 2], ![2, 0, 3, 1], by unfold Function.LeftInverse; decide,
        by unfold Function.RightInverse Function.LeftInverse; decide⟩
    refine ⟨place, by decide, ?_⟩
    unfold Highlight.Tied
    decide
  have hstarts : ∀ number, ((apart.highlightsOn number).map Highlight.start).Nodup := by
    intro number
    by_cases h7 : number = 7
    · subst h7
      decide
    · by_cases h8 : number = 8
      · subst h8
        decide
      · have hnone : apart.highlightsOn number = [] := by
          simp [Excerpt.highlightsOn, apart, Ne.symm h7, Ne.symm h8]
        rw [hnone]
        exact List.nodup_nil
  have hperm : apart.highlights.Perm apartReversed.highlights := apart.highlights.reverse_perm.symm
  have htiedLines : tied.lines = tiedElsewhere.lines := rfl
  have hapartLines : apart.lines = apartReversed.lines := rfl
  obtain ⟨htied, -⟩ := layout_of_reordered htiedLines rfl
  obtain ⟨-, hany⟩ := layout_of_reordered hapartLines rfl
  exact ⟨hties, htied hties, hperm, hstarts, hany hperm hstarts⟩

end Diagnostics
