import Mathlib.Data.List.Forall2
import SiteSafety.Json.Lexeme

namespace SiteSafety.Json

structure Blanks where
  chars : List Char
  blank : ∀ c ∈ chars, isBlank c = true

namespace Blanks

def none : Blanks := ⟨[], nofun⟩

def space : Blanks := ⟨[' '], List.forall_mem_singleton.mpr rfl⟩

def lineBreak (depth : Nat) : Blanks where
  chars := Json.lineBreak depth
  blank := by
    rw [Json.lineBreak, List.forall_mem_cons]
    exact ⟨rfl, fun c hc => List.eq_of_mem_replicate hc ▸ rfl⟩

end Blanks

/-- What stands ahead of an item: a comma, unless it is the first. -/
def lead (first : Bool) (comma : Blanks) : List Char := if first then [] else comma.chars ++ [',']

mutual

/-- The text is one of the value, with blanks where they may stand inside. -/
def Written : Json → List Char → Prop
  | .null, cs => cs = compactChars .null
  | .flag b, cs => cs = compactChars (.flag b)
  | .whole n, cs => cs = compactChars (.whole n)
  | .number x, cs => cs = compactChars (.number x)
  | .text s, cs => cs = compactChars (.text s)
  | .array items, cs => ∃ (body : List Char) (closing : Blanks),
      WrittenItems true items body ∧ cs = '[' :: body ++ closing.chars ++ [']']
  | .object fields, cs => ∃ (body : List Char) (closing : Blanks),
      WrittenFields true fields body ∧ cs = '{' :: body ++ closing.chars ++ ['}']

def WrittenItems (first : Bool) : List Json → List Char → Prop
  | [], cs => cs = []
  | j :: js, cs => ∃ (comma before : Blanks) (value rest : List Char),
      Written j value ∧ WrittenItems false js rest ∧
        cs = lead first comma ++ before.chars ++ value ++ rest

def WrittenFields (first : Bool) : List (String × Json) → List Char → Prop
  | [], cs => cs = []
  | (name, j) :: fs, cs => ∃ (comma before colon after : Blanks) (value rest : List Char),
      Written j value ∧ WrittenFields false fs rest ∧
        cs = lead first comma ++ before.chars ++ textChars name ++ colon.chars ++
          ':' :: after.chars ++ value ++ rest

end

def Spells (document : String) (j : Json) : Prop :=
  ∃ (before after : Blanks) (value : List Char),
    Written j value ∧ document.toList = before.chars ++ value ++ after.chars

theorem joined_cons (separator p : List Char) (ps : List (List Char)) :
    joined separator (p :: ps) = p ++ ps.flatMap (separator ++ ·) := by
  induction ps generalizing p with
  | nil => rw [joined, List.flatMap_nil, List.append_nil]
  | cons q qs ih =>
      rw [joined, ih, List.flatMap_cons, List.append_assoc, List.append_assoc]
      exact List.cons_ne_nil q qs

def Piece (gap : Blanks) (f : String × Json) (p : List Char) : Prop :=
  ∃ value, Written f.2 value ∧ p = textChars f.1 ++ ':' :: gap.chars ++ value

section Pieces

variable {items : List Json} {fields : List (String × Json)} {pieces : List (List Char)}
  {j : Json} {f : String × Json} {p : List Char} (pad : Blanks) {gap : Blanks}

theorem writtenItems_flatMap (h : List.Forall₂ Written items pieces) :
    WrittenItems false items (pieces.flatMap (',' :: pad.chars ++ ·)) := by
  induction h with
  | nil => rfl
  | cons hj _ ih => exact ⟨.none, pad, _, _, hj, ih, rfl⟩

theorem writtenItems_joined (hj : Written j p) (h : List.Forall₂ Written items pieces) :
    WrittenItems true (j :: items) (pad.chars ++ joined (',' :: pad.chars) (p :: pieces)) := by
  refine ⟨.none, pad, p, _, hj, writtenItems_flatMap pad h, ?_⟩
  rw [joined_cons, List.append_assoc]
  rfl

theorem writtenFields_flatMap (h : List.Forall₂ (Piece gap) fields pieces) :
    WrittenFields false fields (pieces.flatMap (',' :: pad.chars ++ ·)) := by
  induction h with
  | nil => rfl
  | cons hf _ ih =>
      obtain ⟨value, hvalue, rfl⟩ := hf
      refine ⟨.none, pad, .none, gap, value, _, hvalue, ih, ?_⟩
      simp [lead, Blanks.none]

theorem writtenFields_joined (hf : Piece gap f p) (h : List.Forall₂ (Piece gap) fields pieces) :
    WrittenFields true (f :: fields) (pad.chars ++ joined (',' :: pad.chars) (p :: pieces)) := by
  obtain ⟨value, hvalue, rfl⟩ := hf
  refine ⟨.none, pad, .none, gap, value, _, hvalue, writtenFields_flatMap pad h, ?_⟩
  simp [joined_cons, lead, Blanks.none]

theorem written_array (h : List.Forall₂ Written items pieces) :
    Written (.array items) ('[' :: joined [','] pieces ++ [']']) := by
  cases h with
  | nil => exact ⟨[], .none, rfl, rfl⟩
  | cons hj h =>
      refine ⟨_, .none, writtenItems_joined .none hj h, ?_⟩
      simp [Blanks.none]

theorem written_object (h : List.Forall₂ (Piece gap) fields pieces) :
    Written (.object fields) ('{' :: joined [','] pieces ++ ['}']) := by
  cases h with
  | nil => exact ⟨[], .none, rfl, rfl⟩
  | cons hf h =>
      refine ⟨_, .none, writtenFields_joined .none hf h, ?_⟩
      simp [Blanks.none]

theorem written_arrayBlock (depth : Nat) (h : List.Forall₂ Written items pieces) :
    Written (.array items) (block '[' ']' depth pieces) := by
  cases h with
  | nil => exact ⟨[], .none, rfl, rfl⟩
  | cons hj h =>
      refine ⟨_, .lineBreak depth, writtenItems_joined (.lineBreak (depth + 1)) hj h, ?_⟩
      simp [block, Blanks.lineBreak]

theorem written_objectBlock (depth : Nat) (h : List.Forall₂ (Piece gap) fields pieces) :
    Written (.object fields) (block '{' '}' depth pieces) := by
  cases h with
  | nil => exact ⟨[], .none, rfl, rfl⟩
  | cons hf h =>
      refine ⟨_, .lineBreak depth, writtenFields_joined (.lineBreak (depth + 1)) hf h, ?_⟩
      simp [block, Blanks.lineBreak]

end Pieces

mutual

theorem written_compact : ∀ j : Json, Written j j.compactChars
  | .null => rfl
  | .flag _ => rfl
  | .whole _ => rfl
  | .number _ => rfl
  | .text _ => rfl
  | .array items => written_array (forall₂_compactItems items)
  | .object fields => written_object (forall₂_compactFields fields)

theorem forall₂_compactItems : ∀ items, List.Forall₂ Written items (compactItems items)
  | [] => .nil
  | j :: js => .cons (written_compact j) (forall₂_compactItems js)

theorem forall₂_compactFields :
    ∀ fields, List.Forall₂ (Piece .none) fields (compactFields fields)
  | [] => .nil
  | (_, j) :: fs =>
      .cons ⟨j.compactChars, written_compact j, by simp [Blanks.none]⟩ (forall₂_compactFields fs)

end

mutual

theorem written_indented (depth : Nat) : ∀ j : Json, Written j (j.indentedChars depth)
  | .null => rfl
  | .flag _ => rfl
  | .whole _ => rfl
  | .number _ => rfl
  | .text _ => rfl
  | .array items => written_arrayBlock depth (forall₂_indentedItems (depth + 1) items)
  | .object fields => written_objectBlock depth (forall₂_indentedFields (depth + 1) fields)

theorem forall₂_indentedItems (depth : Nat) :
    ∀ items, List.Forall₂ Written items (indentedItems depth items)
  | [] => .nil
  | j :: js => .cons (written_indented depth j) (forall₂_indentedItems depth js)

theorem forall₂_indentedFields (depth : Nat) :
    ∀ fields, List.Forall₂ (Piece .space) fields (indentedFields depth fields)
  | [] => .nil
  | (_, j) :: fs =>
      .cons ⟨j.indentedChars depth, written_indented depth j, by simp [Blanks.space]⟩
        (forall₂_indentedFields depth fs)

end

theorem spells_of_written {j : Json} {cs : List Char} (h : Written j cs) :
    Spells (String.ofList cs) j :=
  ⟨.none, .none, cs, h, by simp [Blanks.none]⟩

theorem spells_compact (j : Json) : Spells j.compact j := spells_of_written (written_compact j)

theorem spells_indented (j : Json) : Spells j.indented j := spells_of_written (written_indented 0 j)

end SiteSafety.Json
