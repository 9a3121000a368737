import Diagnostics.Text.Template
import Mathlib.Data.List.Forall2
import Mathlib.Data.List.TakeWhile

/-! # Templates made of parts

A template that is put together from literal text and plain names is read as just these parts: two
equal braces stand for one character of the text, and every name is a field of its own. So it is filled
in with the texts of its parts, one behind the other. What stands for a name comes in as it is, also
if it has braces.
-/
namespace Diagnostics.Text.Template
variable {values : List (String × String)}

/-- A character that does not end a name, does not lead into its value and is no digit. -/
def isNameChar (c : Char) : Bool :=
  c ∉ ['{', '}', ':', '!', '[', '.'] && (digitValue? c).isNone

theorem isNameChar_iff {c : Char} : isNameChar c ↔
    (c ≠ '{' ∧ c ≠ '}' ∧ c ≠ ':' ∧ c ≠ '!' ∧ c ≠ '[' ∧ c ≠ '.') ∧ digitValue? c = none := by
  simp [isNameChar]

/-- A name that stands for a whole value, and not for one that is given by position. -/
structure IsPlainName (name : List Char) : Prop where
  ne_nil : name ≠ []
  chars : ∀ c ∈ name, isNameChar c

/-- What a piece is replaced by, if its layout may hold fields up to a depth. -/
def Piece.fill (values : List (String × String)) (depth : Nat) : Piece → Except Fault (List Char)
  | .char c => .ok [c]
  | .field name conversion layout => do
    let value ← convert conversion (← valueOf values name)
    let layout ← if layout.contains '{' then expandTo values depth layout else pure layout
    layOut layout value

namespace Segment

def IsPlain : Segment → Prop
  | .literal _ => True
  | .value name => IsPlainName name.toList

/-- The pieces that a part is read as. -/
def pieces : Segment → List Piece
  | .literal text => text.toList.map .char
  | .value name => [.field name.toList none []]

theorem escape_cons_of_brace {c : Char} (hc : c = '{' ∨ c = '}') (cs : List Char) :
    escape (c :: cs) = c :: c :: escape cs := by
  simp [escape, hc]

theorem escape_cons_of_no_brace {c : Char} (hc : ¬ (c = '{' ∨ c = '}')) (cs : List Char) :
    escape (c :: cs) = c :: escape cs := by
  simp [escape, hc]

end Segment

@[simp] theorem pieces_nil : pieces [] = ([], true) := by
  rw [pieces]

theorem pieces_doubled {c : Char} (hc : c = '{' ∨ c = '}') (rest : List Char) :
    pieces (c :: c :: rest) = (.char c :: (pieces rest).1, (pieces rest).2) := by
  rcases hc with rfl | rfl <;> rw [pieces]

theorem pieces_cons_of_no_brace {c : Char} (hc : ¬ (c = '{' ∨ c = '}')) (rest : List Char) :
    pieces (c :: rest) = (.char c :: (pieces rest).1, (pieces rest).2) := by
  obtain ⟨hopen, hclose⟩ := not_or.mp hc
  rw [pieces] <;> simp [hopen, hclose]

theorem pieces_field {cs after : List Char} {piece : Piece} (hcs : cs.head? ≠ some '{')
    (h : readField cs = some (piece, after)) :
    pieces ('{' :: cs) = (piece :: (pieces after).1, (pieces after).2) := by
  rw [pieces]
  · split
    · next hnone =>
      rw [h] at hnone
      cases hnone
    · next hsome =>
      rw [h] at hsome
      cases hsome
      rfl
  · rintro rest rfl
    exact hcs rfl

/-- Text with doubled braces is read as its characters, whatever is behind it. -/
theorem pieces_escape_append (cs rest : List Char) :
    pieces (Segment.escape cs ++ rest) =
      (cs.map .char ++ (pieces rest).1, (pieces rest).2) := by
  induction cs with
  | nil => rfl
  | cons c cs ih =>
    by_cases hc : c = '{' ∨ c = '}'
    · rw [Segment.escape_cons_of_brace hc, List.cons_append, List.cons_append, pieces_doubled hc, ih]
      rfl
    · rw [Segment.escape_cons_of_no_brace hc, List.cons_append, pieces_cons_of_no_brace hc, ih]
      rfl

theorem readName_append {name : List Char} (hname : ∀ c ∈ name, isNameChar c) (rest : List Char) :
    readName false (name ++ '}' :: rest) = some (name, '}', rest) := by
  induction name with
  | nil => rfl
  | cons c name ih =>
    obtain ⟨hc, hrest⟩ := List.forall_mem_cons.mp hname
    obtain ⟨⟨hopen, hclose, hcolon, hbang, hbracket, -⟩, -⟩ := isNameChar_iff.mp hc
    have hinside : (c == '[') = false := by simpa using hbracket
    rw [List.cons_append, readName, hinside, ih hrest]
    simp [hopen, hclose, hcolon, hbang]

/-- A part is read as its pieces, whatever is behind it. -/
theorem pieces_written_append {s : Segment} (hs : s.IsPlain) (rest : List Char) :
    pieces (s.written ++ rest) = (s.pieces ++ (pieces rest).1, (pieces rest).2) := by
  cases s with
  | literal text => exact pieces_escape_append text.toList rest
  | value name =>
    have hread : readField (name.toList ++ '}' :: rest) = some (.field name.toList none [], rest) := by
      unfold readField
      rw [readName_append hs.chars]
      rfl
    -- The name does not begin with a brace, so the one in front of it is not half of a doubled brace.
    have hhead : (name.toList ++ '}' :: rest).head? ≠ some '{' := by
      obtain ⟨c, cs, hcs⟩ := List.exists_cons_of_ne_nil hs.ne_nil
      have hc := isNameChar_iff.mp (hs.chars c (by rw [hcs]; exact List.mem_cons_self))
      simpa [hcs] using hc.1.1
    have hwritten : (Segment.value name).written ++ rest = '{' :: (name.toList ++ '}' :: rest) := by
      simp [Segment.written]
    rw [hwritten, pieces_field hhead hread]
    rfl

/-- A template is read as the pieces of its parts, and has no malformed place. -/
theorem pieces_flatMap_written {parts : List Segment} (hparts : ∀ s ∈ parts, s.IsPlain) :
    pieces (parts.flatMap Segment.written) = (parts.flatMap Segment.pieces, true) := by
  induction parts with
  | nil => exact pieces_nil
  | cons s parts ih =>
    obtain ⟨hs, hrest⟩ := List.forall_mem_cons.mp hparts
    rw [List.flatMap_cons, pieces_written_append hs, ih hrest]
    rfl

theorem positionOf_of_chars {cs : List Char} (h : ∀ c ∈ cs, isNameChar c) :
    positionOf cs = .ok none := by
  have htake : cs.takeWhile (fun c => (digitValue? c).isSome) = [] := by
    cases cs with
    | nil => rfl
    | cons c cs =>
      have hc := (isNameChar_iff.mp (h c List.mem_cons_self)).2
      simp [hc]
  have hcount : readCount cs = .ok (none, cs.dropWhile fun c => (digitValue? c).isSome) := by
    unfold readCount
    rw [htake]
    rfl
  unfold positionOf
  rw [hcount]
  cases cs.dropWhile fun c => (digitValue? c).isSome <;> rfl

@[simp] theorem partOf_nil (value : List Char) : partOf value [] = .ok value := by
  rw [partOf]

/-- The value of a plain name is what is given for it. -/
theorem valueOf_of_lookup {name value : String} (hname : IsPlainName name.toList)
    (hvalue : values.lookup name = some value) : valueOf values name.toList = .ok value.toList := by
  have hinFirst : ∀ c ∈ name.toList, (c != '.' && c != '[') = true := by
    intro c hc
    obtain ⟨⟨-, -, -, -, hbracket, hdot⟩, -⟩ := isNameChar_iff.mp (hname.chars c hc)
    simp [hbracket, hdot]
  have hfirst : name.toList.takeWhile (fun c => c != '.' && c != '[') = name.toList :=
    List.takeWhile_eq_self_iff.mpr hinFirst
  have hrest : name.toList.dropWhile (fun c => c != '.' && c != '[') = [] :=
    List.dropWhile_eq_nil_iff.mpr hinFirst
  have hne : name.toList.isEmpty = false := by
    simpa using hname.ne_nil
  unfold valueOf
  simp only [hfirst, hrest, hne, positionOf_of_chars hname.chars, String.ofList_toList, hvalue,
    partOf_nil]
  rfl

theorem expandTo_succ (depth : Nat) (cs : List Char) :
    expandTo values (depth + 1) cs = ((pieces cs).1.mapM (Piece.fill values depth) >>= fun texts =>
      if (pieces cs).2 then pure texts.flatten else throw .malformed) := by
  rw [expandTo]
  rfl

theorem mapM_fill_char (cs : List Char) (depth : Nat) :
    (cs.map Piece.char).mapM (Piece.fill values depth) = .ok (cs.map ([·])) := by
  rw [List.mapM_map]
  exact List.mapM_pure

/-- The pieces of a part are replaced by its text. -/
theorem exists_mapM_fill {s : Segment} (hs : s.IsPlain) {text : String}
    (htext : s.filled? values = some text) (depth : Nat) :
    ∃ texts, s.pieces.mapM (Piece.fill values depth) = .ok texts ∧ texts.flatten = text.toList := by
  cases s with
  | literal written =>
    obtain rfl : written = text := Option.some.inj htext
    refine ⟨_, mapM_fill_char written.toList depth, ?_⟩
    rw [← List.flatMap_def, List.flatMap_singleton']
  | value name =>
    refine ⟨[text.toList], ?_, by simp⟩
    simp only [Segment.pieces, List.mapM_cons, List.mapM_nil, Piece.fill, valueOf_of_lookup hs htext]
    rfl

theorem exists_mapM_fill_flatMap {parts : List Segment} {texts : List String}
    (hparts : ∀ s ∈ parts, s.IsPlain)
    (htexts : List.Forall₂ (fun s text => s.filled? values = some text) parts texts) (depth : Nat) :
    ∃ filled, (parts.flatMap Segment.pieces).mapM (Piece.fill values depth) = .ok filled ∧
      filled.flatten = (String.join texts).toList := by
  induction htexts with
  | nil => exact ⟨[], rfl, by simp⟩
  | cons htext _ ih =>
    obtain ⟨hs, hmore⟩ := List.forall_mem_cons.mp hparts
    obtain ⟨front, hfront, hflat⟩ := exists_mapM_fill hs htext depth
    obtain ⟨back, hback, hrest⟩ := ih hmore
    refine ⟨front ++ back, ?_, ?_⟩
    · rw [List.flatMap_cons, List.mapM_append, hfront, hback]
      rfl
    · rw [List.flatten_append, hflat, hrest, String.join_cons, String.toList_append]

/-- A template that is put together from literal text and plain names comes to the texts of its parts,
one behind the other. -/
theorem expand_ofSegments {parts : List Segment} {texts : List String}
    (hparts : ∀ s ∈ parts, s.IsPlain)
    (htexts : List.Forall₂ (fun s text => s.filled? values = some text) parts texts) :
    expand values (ofSegments parts) = .ok (String.join texts) := by
  obtain ⟨filled, hfilled, hflat⟩ := exists_mapM_fill_flatMap hparts htexts 1
  have hto : expandTo values 2 (parts.flatMap Segment.written) = .ok (String.join texts).toList := by
    rw [expandTo_succ, pieces_flatMap_written hparts, hfilled, ← hflat]
    rfl
  unfold expand ofSegments
  rw [String.toList_ofList, hto]
  change Except.ok (String.ofList (String.join texts).toList) = _
  rw [String.ofList_toList]

end Diagnostics.Text.Template
