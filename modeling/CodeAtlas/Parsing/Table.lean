import CodeAtlas.Parsing.Automaton

/-!
# Packed tables

The table of a parser is written down as sequences of numbers.

- `Table`: the sequences.
- `Table.action`: actions are numbers whose last three bits tell the sort of action.
- `Table.automaton`: the automaton that a table describes.
-/

namespace CodeAtlas

/-- The sequences that make up a table. -/
structure Table where
  actionRow : Packed
  gotoRow : Packed
  lexMode : Packed
  contextMode : Packed
  actionBase : Packed
  actionFirst : Packed
  actionColumns : Packed
  actionValue : Packed
  gotoBase : Packed
  gotoFirst : Packed
  /-- Variables, counted from the first one. -/
  gotoColumns : Packed
  gotoValue : Packed
  tokenSet : Packed
  /-- List `i` of actions has the numbers from `listFirst i` up to `listFirst (i + 1)`. -/
  listFirst : Packed
  listAction : Packed
  reductionSymbol : Packed
  reductionCount : Packed
  /-- One more than the precedence. -/
  reductionPrecedence : Packed
  reductionProduction : Packed

namespace Table

/-- The reduction with a number. -/
def reduction (t : Table) (i : Nat) : Reduction where
  symbol := t.reductionSymbol.get i
  count := t.reductionCount.get i
  precedence := (t.reductionPrecedence.get i : Int) - 1
  production := t.reductionProduction.get i

/-- The action that a number stands for. -/
def action (reduction : Nat → Reduction) (code : Nat) : Action :=
  let rest := code / 8
  match code % 8 with
  | 0 => .shift rest
  | 1 => .shiftRepeat rest
  | 2 => .reduce (reduction rest)
  | 3 => .shiftExtra
  | 4 => .accept
  | _ => .recover

/-- The automaton of a table with the given number of tokens. The sequences are read once. -/
def automaton (t : Table) (tokenCount : Nat) : Automaton :=
  let actionRow := t.actionRow.toArray
  let gotoRow := t.gotoRow.toArray
  let lexMode := t.lexMode.toArray
  let contextMode := t.contextMode.toArray
  let actionBase := t.actionBase.toArray
  let actionFirst := t.actionFirst.toArray
  let actionColumns := t.actionColumns.toArray
  let actionValue := t.actionValue.toArray
  let gotoBase := t.gotoBase.toArray
  let gotoFirst := t.gotoFirst.toArray
  let gotoColumns := t.gotoColumns.toArray
  let gotoValue := t.gotoValue.toArray
  let tokenSet := t.tokenSet.toArray
  let listFirst := t.listFirst.toArray
  let reductions := (Array.range t.reductionSymbol.size).map t.reduction
  let actions := t.listAction.toArray.map (action fun i => reductions.getD i default)
  { actionRow := fun s => actionRow.getD s 0
    gotoRow := fun s => gotoRow.getD s 0
    lexMode := fun s => lexMode.getD s 0
    contextMode := fun s => contextMode.getD s 0
    actionRows :=
      { base := fun r => actionBase.getD r 0
        first := fun r => actionFirst.getD r 0
        columns := fun i => actionColumns.getD i 0
        value := fun i => actionValue.getD i 0 }
    gotoRows :=
      { base := fun r => gotoBase.getD r 0
        first := fun r => gotoFirst.getD r 0
        columns := fun i => gotoColumns.getD i 0 + tokenCount
        value := fun i => gotoValue.getD i 0 }
    tokenSet := fun i => tokenSet.getD i 0
    actionList := fun i =>
      (actions.extract (listFirst.getD i 0) (listFirst.getD (i + 1) 0)).toList }

end Table

end CodeAtlas
