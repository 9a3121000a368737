import Diagnostics.Identifier.DocLink
import Diagnostics.Proofs.Text.Templates

/-! # What a link says

A template for links consists of literal text and of the four things that a linker fills in. A link is
then these parts one behind the other, and nothing in them is looked at again: a package or an anchor
may have braces. In a link of the usual form, the first `#` behind the version ends the path, and its
slashes are the dots of the type, where the path of the type has neither slash nor `#`. So the links of
a linker tell such types apart, and their anchors.
-/
namespace Diagnostics

inductive LinkPart where
  | literal (text : String)
  | package
  | version
  | path
  | anchor
  deriving DecidableEq, Repr

namespace LinkPart

def segment : LinkPart → Text.Template.Segment
  | .literal text => .literal text
  | .package => .value "package"
  | .version => .value "version"
  | .path => .value "path"
  | .anchor => .value "anchor"

def template (parts : List LinkPart) : String :=
  Text.Template.ofSegments (parts.map segment)

/-- What a part is in a link. -/
def shown (l : DocLinker) (typePath anchor : String) : LinkPart → String
  | .literal text => text
  | .package => l.package
  | .version => l.version
  | .path => pathOfType typePath
  | .anchor => anchor

def usual : List LinkPart :=
  [.literal "https://", .package, .literal ".readthedocs.io/en/", .version, .literal "/", .path,
    .literal ".html#", .anchor]

theorem template_usual : template usual = DocLinker.defaultTemplate := rfl

example : DocLinker.defaultTemplate =
    "https://\x7bpackage\x7d.readthedocs.io/en/\x7bversion\x7d/\x7bpath\x7d.html#\x7banchor\x7d" := by
  decide

theorem isPlain_segment (part : LinkPart) : part.segment.IsPlain := by
  cases part with
  | literal text => trivial
  | _ => exact ⟨by decide, List.all_eq_true.mp (by decide)⟩

end LinkPart

theorem DocLinker.link_of_parts {l : DocLinker} {parts : List LinkPart}
    (hl : l.template = LinkPart.template parts) (typePath anchor : String) :
    l.link typePath anchor = .ok (String.join (parts.map (LinkPart.shown l typePath anchor))) := by
  have hplain : ∀ s ∈ parts.map LinkPart.segment, s.IsPlain :=
    List.forall_mem_map.mpr fun part _ => part.isPlain_segment
  have hshown : List.Forall₂ (fun s text => Text.Template.Segment.filled? [("package", l.package),
      ("version", l.version), ("path", pathOfType typePath), ("anchor", anchor)] s = some text)
      (parts.map LinkPart.segment) (parts.map (LinkPart.shown l typePath anchor)) := by
    rw [List.forall₂_map_left_iff, List.forall₂_map_right_iff, List.forall₂_same]
    intro part _
    cases part <;> rfl
  unfold link
  rw [hl, LinkPart.template, Text.Template.expand_ofSegments hplain hshown]
  rfl

/-- Where neither front has the separator, the first one in a text is where its front ends. -/
theorem split_at_first_iff {α : Type} {sep : α} {xs xs' ys ys' : List α} (hxs : sep ∉ xs)
    (hxs' : sep ∉ xs') : xs ++ sep :: ys = xs' ++ sep :: ys' ↔ xs = xs' ∧ ys = ys' := by
  induction xs generalizing xs' with
  | nil =>
    cases xs' with
    | nil => simp
    | cons x' xs' => simp [List.ne_of_not_mem_cons hxs']
  | cons x xs ih =>
    cases xs' with
    | nil => simp [(List.ne_of_not_mem_cons hxs).symm]
    | cons x' xs' =>
      have hrest := ih (List.not_mem_of_not_mem_cons hxs) (List.not_mem_of_not_mem_cons hxs')
      simp [hrest, and_assoc]

/-- A path of a type that can be read back from a link: it has no slash of its own, and no `#`. -/
structure IsDotted (typePath : String) : Prop where
  no_slash : '/' ∉ typePath.toList
  no_hash : '#' ∉ typePath.toList

theorem IsDotted.dots_of_slashes {p : String} (hp : IsDotted p) :
    (pathOfType p).toList.map (fun c => if c = '/' then '.' else c) = p.toList := by
  unfold pathOfType
  rw [String.toList_ofList, List.map_map, List.map_congr_left (g := id), List.map_id]
  intro c hc
  have hslash : c ≠ '/' := fun h => hp.no_slash (h ▸ hc)
  by_cases hdot : c = '.'
  · simp [hdot]
  · simp [hdot, hslash]

theorem pathOfType_inj {p q : String} (hp : IsDotted p) (hq : IsDotted q)
    (h : pathOfType p = pathOfType q) : p = q := by
  rw [← String.toList_inj, ← hp.dots_of_slashes, h, hq.dots_of_slashes]

theorem IsDotted.hash_notMem_path {p : String} (hp : IsDotted p) :
    '#' ∉ (pathOfType p).toList := by
  unfold pathOfType
  rw [String.toList_ofList, List.mem_map]
  rintro ⟨c, hc, hhash⟩
  split at hhash
  · cases hhash
  · exact hp.no_hash (hhash ▸ hc)

theorem page_inj {p q a b : String} (hp : IsDotted p) (hq : IsDotted q)
    (h : pathOfType p ++ (".html#" ++ a) = pathOfType q ++ (".html#" ++ b)) : p = q ∧ a = b := by
  have hsplit : ∀ p a : String, (pathOfType p ++ (".html#" ++ a)).toList =
      ((pathOfType p).toList ++ ".html".toList) ++ '#' :: a.toList := by
    intro p a
    simp
  have hfront : ∀ {p : String}, IsDotted p → '#' ∉ (pathOfType p).toList ++ ".html".toList := by
    intro p hp
    simp [hp.hash_notMem_path]
  have hlists := congrArg String.toList h
  rw [hsplit, hsplit, split_at_first_iff (hfront hp) (hfront hq)] at hlists
  obtain ⟨hpath, hanchor⟩ := hlists
  exact ⟨pathOfType_inj hp hq (String.toList_inj.mp (List.append_cancel_right hpath)),
    String.toList_inj.mp hanchor⟩

/-- A link consists of the parts of its template as they are: literal text, the package, the version,
the path with slashes for dots, and the anchor. Two links of the usual form that one linker makes are
the same only for the same type and anchor, whatever the package and the version are. -/
theorem links_verbatim_and_distinct (package version : String) :
    (∀ (parts : List LinkPart) (typePath anchor : String),
      let l : DocLinker := ⟨package, version, LinkPart.template parts⟩
      l.link typePath anchor =
        .ok (String.join (parts.map (LinkPart.shown l typePath anchor)))) ∧
    ∀ p₁ p₂ a₁ a₂ : String, IsDotted p₁ → IsDotted p₂ →
      let l : DocLinker := ⟨package, version, DocLinker.defaultTemplate⟩
      ∃ u₁ u₂, l.link p₁ a₁ = .ok u₁ ∧ l.link p₂ a₂ = .ok u₂ ∧ (u₁ = u₂ ↔ p₁ = p₂ ∧ a₁ = a₂) := by
  refine ⟨fun parts typePath anchor => DocLinker.link_of_parts rfl typePath anchor, ?_⟩
  intro p₁ p₂ a₁ a₂ hp₁ hp₂ l
  have hl : l.template = LinkPart.template LinkPart.usual := LinkPart.template_usual.symm
  refine ⟨_, _, DocLinker.link_of_parts hl p₁ a₁, DocLinker.link_of_parts hl p₂ a₂, ?_, ?_⟩
  · intro h
    -- What stands in front of the path is the same in both links.
    simp only [LinkPart.usual, List.map_cons, List.map_nil, LinkPart.shown, String.join_cons,
      String.join_nil, String.append_empty, String.append_right_inj] at h
    exact page_inj hp₁ hp₂ h
  · rintro ⟨rfl, rfl⟩
    rfl

/-- A slash in a type path is not told apart from a dot. -/
example (l : DocLinker) (anchor : String) :
    l.link "calc/Parse" anchor = l.link "calc.Parse" anchor := by
  have hpath : pathOfType "calc/Parse" = pathOfType "calc.Parse" := by decide
  unfold DocLinker.link
  rw [hpath]

def bracedParts : List LinkPart := [.literal "\x7b", .package, .literal "\x7d#", .path, .anchor]

/-- The name of the package is not filled in again, and an anchor that looks like the end of another
link does not make the two the same. -/
theorem links_verbatim_and_distinct_braced :
    let package := "\x7bversion\x7d"
    (DocLinker.mk package "1.0" (LinkPart.template bracedParts)).link "calc.Parse" "E1" =
      .ok "\x7b\x7bversion\x7d\x7d#calc/ParseE1" ∧
    IsDotted "calc.Parse" ∧
    ∃ u₁ u₂, (DocLinker.mk package "1.0" DocLinker.defaultTemplate).link "calc.Parse" "E1" = .ok u₁ ∧
      (DocLinker.mk package "1.0" DocLinker.defaultTemplate).link "calc.Parse" "E1.html#E1" = .ok u₂ ∧
      u₁ ≠ u₂ := by
  intro package
  obtain ⟨hverbatim, hdistinct⟩ := links_verbatim_and_distinct package "1.0"
  have hdotted : IsDotted "calc.Parse" := ⟨by decide, by decide⟩
  obtain ⟨u₁, u₂, hu₁, hu₂, hiff⟩ := hdistinct _ _ "E1" "E1.html#E1" hdotted hdotted
  have htext : String.join (bracedParts.map (LinkPart.shown
      ⟨package, "1.0", LinkPart.template bracedParts⟩ "calc.Parse" "E1")) =
      "\x7b\x7bversion\x7d\x7d#calc/ParseE1" := by
    decide
  refine ⟨?_, hdotted, u₁, u₂, hu₁, hu₂, ?_⟩
  · rw [← htext]
    exact hverbatim bracedParts "calc.Parse" "E1"
  intro h
  exact absurd (hiff.mp h).2 (by decide)

end Diagnostics
