import RegistrySeeding.Registry.Ledger

/-! A ledger whose calls can be answered by rules instead. The first rule that fits a call and
has uses left answers it and loses one use; a call that no rule fits gets the ledger's answer. A
rule never changes the ledger itself. -/
namespace RegistrySeeding.Script

inductive Act where
  | answer (result : Except Error Answer)
  | listing (assets : List RegisteredAsset)
  | error (e : Error)
  | hang
  | cancelAfter

inductive Kind where
  | load (stage : Stage)
  | create (stage : Stage)
  | list
  deriving DecidableEq, Repr

def kindOf : Call → Kind
  | .load stage => .load stage
  | .submit s => .create s.stage
  | .list => .list

def keyOf : Call → String
  | .submit s => s.key
  | _ => ""

structure Rule where
  kind : Kind
  key : Option String
  left : Option Nat
  act : Act

def Rule.fits (rule : Rule) (call : Call) : Bool :=
  rule.kind = kindOf call && rule.key.all (· == keyOf call) && rule.left != some 0

structure State where
  ledger : Ledger
  rules : List Rule

def take (call : Call) : List Rule → Option Act × List Rule
  | [] => (none, [])
  | rule :: rest =>
    if rule.fits call then
      (some rule.act, { rule with left := rule.left.map (· - 1) } :: rest)
    else
      let (act, rest) := take call rest
      (act, rule :: rest)

def exchange {α : Type} (call : Call) (own : Act → Option (Except Error α))
    (default : State → Exchange State α) (state : State) : Exchange State α :=
  let (act, rules) := take call state.rules
  let state := { state with rules }
  match act with
  | none => default state
  | some (.error e) => .plain (.error e) state
  | some .hang => { reply := .abandoned, world := state }
  | some .cancelAfter =>
    let x := default state
    match x.reply with
    | .answered result _ => { x with reply := .answered result true }
    | .abandoned => x
  | some act =>
    match own act with
    | some result => .plain result state
    | none => default state

def answerOf : Act → Option (Except Error Answer)
  | .answer result => some result
  | _ => none

def listingOf : Act → Option (Except Error (List RegisteredAsset))
  | .listing assets => some (.ok assets)
  | _ => none

def registry : Registry State where
  submit s := exchange (.submit s) answerOf fun state =>
    let (answer, ledger) := state.ledger.submit s
    .plain (.ok answer) { state with ledger }
  list := exchange .list listingOf fun state => .plain (.ok state.ledger.assets) state

def source (inner : Source State) : Source State where
  chains := exchange (.load .chains) (fun _ => none) inner.chains
  assets := exchange (.load .assets) (fun _ => none) inner.assets
  deployments := exchange (.load .deployments) (fun _ => none) inner.deployments

end RegistrySeeding.Script
