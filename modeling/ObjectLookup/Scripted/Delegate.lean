import ObjectLookup.Delegate
import ObjectLookup.Scripted.Store

/-! # Scripted delegates -/

namespace ObjectLookup.Scripted

/-- What a scripted delegate does when it is called. -/
inductive Script where
  /-- Always the same answer. -/
  | const (answer : Value)
  /-- The identifier with text before and after it. -/
  | affix (before after : String)
  /-- The answer for the identifier, or the default one. -/
  | table (rows : List (String × Value)) (default : Value)
  /-- The bucket from an entry of the context, the identifier as the key. -/
  | context (before field : String)
  /-- The answers in turn, the last one repeating. -/
  | sequence (answers : List Value)
  /-- Overwrites an entry of the context, then always the same answer. -/
  | mutate (field : String) (answer : Value)
  | raise (e : Failure)

/-- A text and a value put together, which works only if the value is a text too. -/
def concat (s : String) : Value → Except Failure String
  | .text t => .ok (s ++ t)
  | v => .error
    ⟨.other "TypeError" ("can only concatenate str (not \"" ++ v.typeName ++ "\") to str"), []⟩

/-- A mapping with a bucket from the context, and the identifier as the key. -/
def fromContext (before field identifier : String) (context : Context) : Except Failure Value :=
  match context.get? field with
  | none => .error ⟨keyMissing field, []⟩
  | some v => (concat before v).map fun bucket ↦
      .dict [(.text "bucket", .text bucket), (.text "key", .text identifier)]

/-- What the script of the delegate with the given number does. -/
def Script.run (number : Nat) (script : Script) : Lookup Stage := fun identifier context ↦
  match script with
  | .const v => return (.ok v, context)
  | .affix before after => return (.ok (.text (before ++ identifier ++ after)), context)
  | .table rows default =>
    return (.ok (((rows.find? (·.1 = identifier)).map Prod.snd).getD default), context)
  | .context before field => return (fromContext before field identifier context, context)
  | .sequence answers => do
    let stage ← get
    set { stage with turns := number :: stage.turns }
    let answer := (answers[stage.turns.count number]?).getD (answers.getLast?.getD .null)
    return (.ok answer, context)
  | .mutate field v => return (.ok v, context.put field (.text "mutated"))
  | .raise e => return (.error e, context)

/-- The delegate with the given number. -/
def delegate (number : Nat) (script : Script) : Delegate Stage :=
  .callable .supplied (script.run number)

end ObjectLookup.Scripted
