import ObservableGen.Source.Instruction
set_option autoImplicit false

/-!
Calls on a writer taken apart into strokes, and what they do to its level. Main statement: calls take off a level for
each dedent that has no indent among them, down to zero, and then put one on for each indent that has no dedent; a block
around calls that match leaves the level as it was.
-/
namespace ObservableGen.Source

-- A text some levels deeper than what is around it, the end of a line, one level more or less.
inductive Stroke where
  | text (extra : Nat) (text : String)
  | feed
  | deeper
  | shallower

namespace Stroke

def text? : Stroke → Option String
  | .text _ written => some written
  | .feed => none
  | .deeper => none
  | .shallower => none

def line (extra : Nat) (text : String) : List Stroke := [.text extra text, .feed]

def opening : List Stroke := line 0 "\x7b" ++ [.deeper]

def closing : List Stroke := .shallower :: line 0 "\x7d"

end Stroke

namespace Instruction

mutual
def strokes : Instruction → List Stroke
  | .write text => [.text 0 text]
  | .writeLine text => Stroke.line 0 text
  | .writeLineAt extra text => Stroke.line extra text
  | .blankLine => [.feed]
  | .indent => [.deeper]
  | .dedent => [.shallower]
  | .openBlock => Stroke.opening
  | .closeBlock => Stroke.closing
  | .block head body => Stroke.line 0 head ++ Stroke.opening ++ allStrokes body ++ Stroke.closing

def allStrokes : List Instruction → List Stroke
  | [] => []
  | first :: rest => first.strokes ++ allStrokes rest
end

end Instruction

namespace Writer

def stroke (writer : Writer) : Stroke → Writer
  | .text extra text => { { writer with level := writer.level + extra }.write text with level := writer.level }
  | .feed => writer.blankLine
  | .deeper => writer.indent
  | .shallower => writer.dedent

theorem text_stroke (writer : Writer) (text : String) : writer.stroke (.text 0 text) = writer.write text := by
  change { writer.write text with level := writer.level } = writer.write text
  rw [← level_write writer text]

theorem line_strokes (writer : Writer) (text : String) :
    (Stroke.line 0 text).foldl stroke writer = writer.writeLine text := by
  change (writer.stroke (.text 0 text)).blankLine = (writer.write text).blankLine
  rw [text_stroke]

theorem line_at_strokes (writer : Writer) (extra : Nat) (text : String) :
    (Stroke.line extra text).foldl stroke writer = writer.writeLineAt extra text := by
  simp [Stroke.line, stroke, writeLineAt, writeLine, blankLine, level_write]

theorem opening_strokes (writer : Writer) : Stroke.opening.foldl stroke writer = writer.openBlock := by
  rw [Stroke.opening, List.foldl_append, line_strokes]
  rfl

theorem closing_strokes (writer : Writer) : Stroke.closing.foldl stroke writer = writer.closeBlock := by
  rw [Stroke.closing, List.foldl_cons, line_strokes]
  rfl

end Writer

namespace Instruction

mutual
theorem run_strokes (instruction : Instruction) (writer : Writer) :
    instruction.run writer = instruction.strokes.foldl Writer.stroke writer := by
  cases instruction with
  | write text => exact (writer.text_stroke text).symm
  | writeLine text => exact (writer.line_strokes text).symm
  | writeLineAt extra text => exact (writer.line_at_strokes extra text).symm
  | blankLine => rfl
  | indent => rfl
  | dedent => rfl
  | openBlock => exact writer.opening_strokes.symm
  | closeBlock => exact writer.closing_strokes.symm
  | block head body =>
      rw [run, Writer.block, run_all_strokes body, strokes, List.foldl_append, List.foldl_append, List.foldl_append,
        Writer.line_strokes, Writer.opening_strokes, Writer.closing_strokes]

theorem run_all_strokes (instructions : List Instruction) (writer : Writer) :
    runAll instructions writer = (allStrokes instructions).foldl Writer.stroke writer := by
  cases instructions with
  | nil => rfl
  | cons first rest => rw [runAll, run_strokes first, run_all_strokes rest, allStrokes, List.foldl_append]
end

end Instruction

structure Balance where
  dedents : Nat
  indents : Nat
deriving DecidableEq

namespace Stroke

-- The dedents that no indent of the same strokes stands before, and the indents that no dedent takes back.
def balance : List Stroke → Balance
  | [] => ⟨0, 0⟩
  | .deeper :: rest =>
    if (balance rest).dedents = 0 then ⟨0, (balance rest).indents + 1⟩
    else ⟨(balance rest).dedents - 1, (balance rest).indents⟩
  | .shallower :: rest => ⟨(balance rest).dedents + 1, (balance rest).indents⟩
  | .text _ _ :: rest => balance rest
  | .feed :: rest => balance rest

-- Each indent is taken back by a dedent behind it, and each dedent takes one back.
inductive Matched : List Stroke → Prop where
  | none : Matched []
  | text (extra : Nat) (written : String) {rest : List Stroke} (behind : Matched rest) :
      Matched (.text extra written :: rest)
  | feed {rest : List Stroke} (behind : Matched rest) : Matched (.feed :: rest)
  | pair {inner rest : List Stroke} (within : Matched inner) (behind : Matched rest) :
      Matched (.deeper :: inner ++ .shallower :: rest)

-- Matched strokes, and so many dedents between them.
inductive Lacking : Nat → List Stroke → Prop where
  | matched {strokes : List Stroke} (whole : Matched strokes) : Lacking 0 strokes
  | dedent {front back : List Stroke} {count : Nat} (before : Matched front) (behind : Lacking count back) :
      Lacking (count + 1) (front ++ .shallower :: back)

theorem balance_shallower (rest : List Stroke) (dedents indents : Nat) (behind : balance rest = ⟨dedents, indents⟩) :
    balance (.shallower :: rest) = ⟨dedents + 1, indents⟩ := by
  rw [balance, behind]

theorem balance_deeper (rest : List Stroke) (dedents indents : Nat) (lacks : balance rest = ⟨dedents + 1, indents⟩) :
    balance (.deeper :: rest) = ⟨dedents, indents⟩ := by
  rw [balance, lacks]
  rfl

-- An indent that is not taken back would be left over.
theorem balance_of_deeper (rest : List Stroke) (dedents : Nat) (lacks : balance (.deeper :: rest) = ⟨dedents, 0⟩) :
    balance rest = ⟨dedents + 1, 0⟩ := by
  cases behind : balance rest with
  | mk lost left =>
      cases lost with
      | zero => simp [balance, behind] at lacks
      | succ lost =>
          rw [balance_deeper _ _ _ behind] at lacks
          cases lacks
          rfl

theorem balance_behind {front : List Stroke} (matched : Matched front) (back : List Stroke) :
    balance (front ++ back) = balance back := by
  induction matched generalizing back with
  | none => rfl
  | text extra written behind ih => exact ih back
  | feed behind ih => exact ih back
  | @pair inner rest within behind ihInner ihRest =>
      have lacks : balance (inner ++ .shallower :: (rest ++ back))
          = ⟨(balance back).dedents + 1, (balance back).indents⟩ :=
        (ihInner _).trans (balance_shallower _ _ _ (ihRest back))
      simpa using balance_deeper _ _ _ lacks

theorem lacking_of_balance (strokes : List Stroke) (dedents : Nat) (lacks : balance strokes = ⟨dedents, 0⟩) :
    Lacking dedents strokes := by
  induction strokes generalizing dedents with
  | nil =>
      cases lacks
      exact .matched .none
  | cons first rest ih =>
      cases first with
      | text extra written =>
          cases ih dedents lacks with
          | matched whole => exact .matched (.text extra written whole)
          | dedent before behind => exact .dedent (.text extra written before) behind
      | feed =>
          cases ih dedents lacks with
          | matched whole => exact .matched (.feed whole)
          | dedent before behind => exact .dedent (.feed before) behind
      | shallower =>
          cases behind : balance rest
          rw [balance_shallower _ _ _ behind] at lacks
          cases lacks
          exact .dedent .none (ih _ behind)
      | deeper =>
          -- The first dedent takes this indent back; what stands behind it is joined to what it encloses.
          cases ih (dedents + 1) (balance_of_deeper rest dedents lacks) with
          | dedent within behind =>
              cases behind with
              | matched whole => exact .matched (.pair within whole)
              | dedent between beyond => simpa using Lacking.dedent (.pair within between) beyond

theorem matched_iff (strokes : List Stroke) : Matched strokes ↔ balance strokes = ⟨0, 0⟩ := by
  constructor
  · intro matched
    simpa [balance] using balance_behind matched []
  · intro even
    cases lacking_of_balance strokes 0 even with
    | matched whole => exact whole

instance : DecidablePred Matched := fun strokes => decidable_of_iff _ (matched_iff strokes).symm

end Stroke

-- A dedent at level zero is lost, so that only those count for which there is a level.
theorem Writer.level_strokes (strokes : List Stroke) (writer : Writer) : (strokes.foldl Writer.stroke writer).level
    = writer.level - (Stroke.balance strokes).dedents + (Stroke.balance strokes).indents := by
  induction strokes generalizing writer with
  | nil => rfl
  | cons first rest ih =>
      rw [List.foldl_cons, ih]
      cases first with
      | text extra text => rfl
      | feed => rfl
      | deeper =>
          change writer.level + 1 - _ + _ = _
          by_cases none : (Stroke.balance rest).dedents = 0
          · rw [Stroke.balance, if_pos none, none]
            dsimp only
            omega
          · rw [Stroke.balance, if_neg none]
            dsimp only
            omega
      | shallower =>
          change writer.level - 1 - _ + _ = _
          rw [Stroke.balance]
          dsimp only
          omega

namespace Instruction

theorem level_all (instructions : List Instruction) (writer : Writer) : (runAll instructions writer).level
    = writer.level - (Stroke.balance (allStrokes instructions)).dedents
      + (Stroke.balance (allStrokes instructions)).indents := by
  rw [run_all_strokes, Writer.level_strokes]

theorem level_block (writer : Writer) (head : String) (body : List Instruction) :
    (writer.block head (runAll body)).level
      = writer.level + 1 - (Stroke.balance (allStrokes body)).dedents
        + (Stroke.balance (allStrokes body)).indents - 1 := by
  have opened : (writer.writeLine head).openBlock.level = writer.level + 1 := by
    rw [Writer.openBlock, Writer.indent, Writer.level_write_line, Writer.level_write_line]
  rw [Writer.block, Writer.closeBlock, Writer.level_write_line, Writer.dedent, level_all, opened]

theorem level_matched_block (writer : Writer) (head : String) (body : List Instruction)
    (matched : Stroke.Matched (allStrokes body)) : (writer.block head (runAll body)).level = writer.level := by
  rw [level_block, (Stroke.matched_iff _).mp matched]
  exact Nat.add_sub_cancel writer.level 1

end Instruction

end ObservableGen.Source
