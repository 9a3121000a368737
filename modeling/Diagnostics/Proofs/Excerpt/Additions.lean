import Diagnostics.Proofs.Excerpt.Runs
import Mathlib.Data.List.Infix
import Mathlib.Order.Bounds.Basic

/-! # Highlights that are added together and one by one

Every addition checks all highlights of the excerpt anew, those that it had before included. These
fit still, so a batch may be cut anywhere, and what is checked amounts to one check of each new
highlight in turn: the first one that does not fit decides how an addition fails.
-/
namespace Diagnostics

/-- Why a highlight does not fit some lines: the first of four reasons that applies. -/
inductive Highlight.FailsFor (h : Highlight) (lines : List SourceLine) : Misfit → Prop where
  | lineMissing (hline : ¬∃ l ∈ lines, l.number = h.line) : FailsFor h lines .lineMissing
  | startNegative (hline : ∃ l ∈ lines, l.number = h.line) (hstart : h.start < 0) :
    FailsFor h lines .startNegative
  | startAfterEnd (hline : ∃ l ∈ lines, l.number = h.line) (hstart : 0 ≤ h.start)
    (hstop : h.stop < h.start) : FailsFor h lines .startAfterEnd
  | endPastLine {shortest : Nat}
    (hshortest : IsLeast {n | ∃ l ∈ lines, l.number = h.line ∧ l.text.length = n} shortest)
    (hstart : 0 ≤ h.start) (hstop : h.start ≤ h.stop) (hlength : shortest < h.stop) :
    FailsFor h lines (.endPastLine shortest)

section Check
variable {h : Highlight} {lines : List SourceLine}

theorem isLeast_shortest {number : Int} {n : Nat} {ns : List Nat}
    (h : lengthsOf number lines = n :: ns) :
    IsLeast {k | ∃ l ∈ lines, l.number = number ∧ l.text.length = k} (ns.foldl min n) := by
  have hmin : (lengthsOf number lines).min? = some (ns.foldl min n) := by
    rw [h, List.min?_cons']
  obtain ⟨hmem, hle⟩ := List.min?_eq_some_iff.mp hmin
  exact ⟨mem_lengthsOf.mp hmem, fun k hk => hle k (mem_lengthsOf.mpr hk)⟩

theorem misfit?_of_no_line (hline : ¬∃ l ∈ lines, l.number = h.line) :
    h.misfit? lines = some .lineMissing := by
  have hnil : lengthsOf h.line lines = [] := not_not.mp (mt lengthsOf_ne_nil.mp hline)
  rw [Highlight.misfit?, hnil]

theorem misfit?_of_line (hline : ∃ l ∈ lines, l.number = h.line) :
    ∃ shortest : Nat,
      IsLeast {n | ∃ l ∈ lines, l.number = h.line ∧ l.text.length = n} shortest ∧
      h.misfit? lines =
        if h.start < 0 then some .startNegative
        else if h.stop < h.start then some .startAfterEnd
        else if shortest < h.stop then some (.endPastLine shortest) else none := by
  obtain ⟨n, ns, hlengths⟩ := List.exists_cons_of_ne_nil (lengthsOf_ne_nil.mpr hline)
  refine ⟨_, isLeast_shortest hlengths, ?_⟩
  rw [Highlight.misfit?, hlengths]

theorem misfit?_eq_some_iff {misfit : Misfit} :
    h.misfit? lines = some misfit ↔ h.FailsFor lines misfit := by
  by_cases hline : ∃ l ∈ lines, l.number = h.line
  · obtain ⟨shortest, hleast, hmisfit⟩ := misfit?_of_line hline
    rw [hmisfit]
    constructor
    · intro hsome
      split_ifs at hsome with hstart hstop hlength <;> cases hsome
      · exact .startNegative hline hstart
      · exact .startAfterEnd hline (by omega) hstop
      · exact .endPastLine hleast (by omega) (by omega) hlength
    · intro hfails
      cases hfails with
      | lineMissing hmissing => exact absurd hline hmissing
      | startNegative _ hstart => rw [if_pos hstart]
      | startAfterEnd _ hstart hstop => rw [if_neg (by omega), if_pos hstop]
      | endPastLine hshortest hstart hstop hlength =>
        rw [hleast.unique hshortest, if_neg (by omega), if_neg (by omega), if_pos hlength]
  · rw [misfit?_of_no_line hline]
    constructor
    · intro hsome
      cases hsome
      exact .lineMissing hline
    · intro hfails
      cases hfails with
      | lineMissing => rfl
      | startNegative hmem => exact absurd hmem hline
      | startAfterEnd hmem => exact absurd hmem hline
      | endPastLine hshortest =>
        exact absurd (hshortest.1.imp fun l hl => ⟨hl.1, hl.2.1⟩) hline

theorem firstMisfit?_eq_some_iff {hs : List Highlight} {fault : Fault} :
    firstMisfit? lines hs = some fault ↔ ∃ before h after misfit, hs = before ++ h :: after ∧
      (∀ g ∈ before, g.Fits lines) ∧ h.FailsFor lines misfit ∧
      fault = .highlight h.line h.start h.stop misfit := by
  unfold firstMisfit?
  rw [List.findSome?_eq_some_iff]
  simp only [Option.map_eq_some_iff, Option.map_eq_none_iff, misfit?_eq_none_iff,
    misfit?_eq_some_iff]
  constructor
  · rintro ⟨before, h, after, rfl, ⟨misfit, hfails, rfl⟩, hbefore⟩
    exact ⟨before, h, after, misfit, rfl, hbefore, hfails, rfl⟩
  · rintro ⟨before, h, after, misfit, rfl, hbefore, hfails, rfl⟩
    exact ⟨before, h, after, rfl, ⟨misfit, hfails, rfl⟩, hbefore⟩

theorem firstMisfit?_append (hs ks : List Highlight) :
    firstMisfit? lines (hs ++ ks) = (firstMisfit? lines hs).or (firstMisfit? lines ks) :=
  List.findSome?_append

end Check

namespace Excerpt
variable {e : Excerpt}

theorem make_eq_error_iff {lines : List SourceLine} {hs : List Highlight} {file : Option String}
    {fault : Fault} : make lines hs file = .error fault ↔ firstMisfit? lines hs = some fault := by
  unfold make
  cases firstMisfit? lines hs <;> simp

/-- A batch may be cut anywhere: what was added first fits still when the rest is added. -/
theorem withHighlights_append (e : Excerpt) (hs ks : List Highlight) :
    e.withHighlights (hs ++ ks) = e.withHighlights hs >>= fun e' => e'.withHighlights ks := by
  cases hfirst : e.withHighlights hs with
  | error fault =>
    have hmisfit := make_eq_error_iff.mp hfirst
    refine make_eq_error_iff.mpr ?_
    rw [← List.append_assoc, firstMisfit?_append, hmisfit, Option.some_or]
  | ok e' =>
    rw [make_eq_ok hfirst]
    change _ = make e.lines (e.highlights ++ hs ++ ks) e.file
    rw [List.append_assoc]
    rfl

/-- The highlights of an excerpt do not decide how an addition to it fails. -/
theorem withHighlights_eq_error_iff (he : e.Sound) {hs : List Highlight} {fault : Fault} :
    e.withHighlights hs = .error fault ↔ firstMisfit? e.lines hs = some fault := by
  unfold withHighlights
  rw [make_eq_error_iff, firstMisfit?_append, firstMisfit?_eq_none_iff.mpr he.fits, Option.none_or]

theorem withHighlights_nil (he : e.Sound) : e.withHighlights [] = .ok e :=
  (withHighlights_eq_ok_iff he).mpr ⟨by rw [List.append_nil], List.forall_mem_nil _⟩

theorem foldlM_withHighlight (he : e.Sound) (hs : List Highlight) :
    hs.foldlM withHighlight e = e.withHighlights hs := by
  induction hs generalizing e with
  | nil => exact (withHighlights_nil he).symm
  | cons h hs ih =>
    rw [List.foldlM_cons, ← List.singleton_append, withHighlights_append]
    change e.withHighlight h >>= _ = e.withHighlight h >>= _
    cases hfirst : e.withHighlight h with
    | error fault => rfl
    | ok e' => exact ih ((Change.withHighlight hfirst).sound he)

theorem withHighlights_outcome (he : e.Sound) (hs : List Highlight) :
    (∀ h ∈ hs, h.Fits e.lines) ∧
        e.withHighlights hs = .ok { e with highlights := e.highlights ++ hs } ∨
      ∃ before h after misfit, hs = before ++ h :: after ∧ (∀ g ∈ before, g.Fits e.lines) ∧
        h.FailsFor e.lines misfit ∧
        e.withHighlights hs = .error (.highlight h.line h.start h.stop misfit) := by
  cases houtcome : e.withHighlights hs with
  | ok e' =>
    obtain ⟨rfl, hfits⟩ := (withHighlights_eq_ok_iff he).mp houtcome
    exact .inl ⟨hfits, rfl⟩
  | error fault =>
    obtain ⟨before, h, after, misfit, hsplit, hbefore, hfails, rfl⟩ :=
      firstMisfit?_eq_some_iff.mp ((withHighlights_eq_error_iff he).mp houtcome)
    exact .inr ⟨before, h, after, misfit, hsplit, hbefore, hfails, rfl⟩

theorem withFile_withHighlights (e : Excerpt) (file : Option String) (hs : List Highlight) :
    (e.withFile file).withHighlights hs = (e.withHighlights hs).map (·.withFile file) := by
  unfold withHighlights make withFile
  cases firstMisfit? e.lines (e.highlights ++ hs) <;> rfl

/-- The excerpts at hand while highlights are added one by one: the first one, and each that an
addition gives. -/
def heldWhileAdding (e : Excerpt) : List Highlight → List Excerpt
  | [] => [e]
  | h :: hs => e :: match e.withHighlight h with
    | .ok e' => e'.heldWhileAdding hs
    | .error _ => []

theorem heldWhileAdding_eq (he : e.Sound) (hs : List Highlight) :
    e.heldWhileAdding hs = (hs.takeWhile fun h => h.Fits e.lines).inits.map
      fun added => { e with highlights := e.highlights ++ added } := by
  induction hs generalizing e with
  | nil => simp [heldWhileAdding]
  | cons h hs ih =>
    rw [heldWhileAdding]
    cases hfirst : e.withHighlight h with
    | error fault =>
      have hmisfit : ¬h.Fits e.lines := by
        intro hfits
        have hok := (withHighlights_eq_ok_iff he).mpr ⟨rfl, List.forall_mem_singleton.mpr hfits⟩
        cases hok.symm.trans hfirst
      rw [List.takeWhile_cons_of_neg (by simpa using hmisfit)]
      simp
    | ok e' =>
      have he' := (Change.withHighlight hfirst).sound he
      obtain ⟨rfl, hfits⟩ := (withHighlights_eq_ok_iff he).mp hfirst
      have hfit : h.Fits e.lines := hfits h List.mem_cons_self
      rw [List.takeWhile_cons_of_pos (by simpa using hfit), List.inits_cons, List.map_cons,
        List.map_map, List.append_nil]
      dsimp only
      rw [ih he']
      simp [Function.comp_def]

end Excerpt

/-- Highlights may be added together or one by one, with one outcome: all of them at the end, or
the fault of the first one that does not fit, with the first reason that applies to it. So neither
the order of the batch nor the highlights that are there already decide whether it succeeds, the
file can be put in before or after, and no addition changes an excerpt that is at hand. -/
theorem withHighlights_one_by_one {e : Excerpt} (he : e.Sound) (hs : List Highlight) :
    hs.foldlM Excerpt.withHighlight e = e.withHighlights hs ∧
    ((∀ h ∈ hs, h.Fits e.lines) ∧
        e.withHighlights hs = .ok { e with highlights := e.highlights ++ hs } ∨
      ∃ before h after misfit, hs = before ++ h :: after ∧ (∀ g ∈ before, g.Fits e.lines) ∧
        h.FailsFor e.lines misfit ∧
        e.withHighlights hs = .error (.highlight h.line h.start h.stop misfit)) ∧
    (∀ hs', hs.Perm hs' →
      ((∃ e', e.withHighlights hs = .ok e') ↔ ∃ e', e.withHighlights hs' = .ok e')) ∧
    (∀ other : Excerpt, other.Sound → other.lines = e.lines → ∀ fault,
      other.withHighlights hs = .error fault ↔ e.withHighlights hs = .error fault) ∧
    (∀ file, (e.withFile file).withHighlights hs = (e.withHighlights hs).map (·.withFile file)) ∧
    e.heldWhileAdding hs = (hs.takeWhile fun h => h.Fits e.lines).inits.map
      fun added => { e with highlights := e.highlights ++ added } := by
  refine ⟨Excerpt.foldlM_withHighlight he hs, Excerpt.withHighlights_outcome he hs, ?_, ?_,
    fun file => e.withFile_withHighlights file hs, Excerpt.heldWhileAdding_eq he hs⟩
  · intro hs' hperm
    simp only [Excerpt.withHighlights_eq_ok_iff he, exists_eq_left, hperm.mem_iff]
  · intro other hother hlines fault
    rw [Excerpt.withHighlights_eq_error_iff hother, Excerpt.withHighlights_eq_error_iff he, hlines]

/-- One number stands on two lines, of which the second one is shorter. -/
def copies : Excerpt :=
  ⟨[⟨3, "let x"⟩, ⟨3, "let"⟩], [⟨3, 3, 3, none, .error⟩], some "a"⟩

theorem withHighlights_one_by_one_copies :
    let fitting : Highlight := ⟨3, 0, 3, none, .info⟩
    let long : Highlight := ⟨3, 0, 5, some "too far", .error⟩
    let elsewhere : Highlight := ⟨4, 2, 1, none, .error⟩
    copies.Sound ∧
      [fitting, long, elsewhere].foldlM Excerpt.withHighlight copies =
        .error (.highlight 3 0 5 (.endPastLine 3)) ∧
      copies.heldWhileAdding [fitting, long, elsewhere] =
        [copies, { copies with highlights := copies.highlights ++ [fitting] }] ∧
      ¬∃ e, copies.withHighlights [elsewhere, long, fitting] = .ok e := by
  intro fitting long elsewhere
  have hsound : copies.Sound := by decide
  obtain ⟨hfold, -, hperm, -, -, hheld⟩ :=
    withHighlights_one_by_one hsound [fitting, long, elsewhere]
  have herror : copies.withHighlights [fitting, long, elsewhere] =
      .error (.highlight 3 0 5 (.endPastLine 3)) := by decide
  refine ⟨hsound, hfold.trans herror, hheld, ?_⟩
  rw [← hperm [elsewhere, long, fitting] (by decide), herror]
  simp

end Diagnostics
