import Polyquery.Expr

/-!
# Members and methods

Every reader reports the members and methods it meets to a chain of resolvers.  Each resolver sees
the event as the ones before it left it, and the reader takes the event as the chain leaves it.

* `MemberEvent`, `JoinMemberEvent`, `MethodEvent` - what is reported;
* `Resolver` - the hooks of one listener;
* `Resolvers` - the chain, with `resolveMember`, `resolveJoinMember` and `resolveMethod`;
* `MethodEvent.expectArgs` - the argument count check of the built-in methods.
-/

namespace Polyquery

/-- A plain member, the collection that qualifies it, and a replacement path. -/
structure MemberEvent where
  member : String
  target : Option String
  resolved : Option String

/-- A member below a dotted name, and a replacement path. -/
structure JoinMemberEvent where
  qualifier : String
  member : String
  resolved : Option String

/-- A call with translated arguments, the receiver of an instance call first. -/
structure MethodEvent where
  name : String
  args : List Expr
  onInstance : Bool
  resolved : Option Expr

/-- The hooks of one listener. -/
structure Resolver where
  member : MemberEvent → MemberEvent
  joinMember : JoinMemberEvent → JoinMemberEvent
  method : MethodEvent → QueryResult MethodEvent

/-- A listener that leaves every event as it is. -/
def Resolver.silent : Resolver := ⟨id, id, .ok⟩

instance : Inhabited Resolver := ⟨Resolver.silent⟩

/-- A chain of listeners in order. -/
structure Resolvers where
  listeners : List Resolver
deriving Inhabited

namespace Resolvers

/-- The chain without listeners. -/
def empty : Resolvers := ⟨[]⟩

/-- The path of a member: what the chain sets, else the member behind its qualifier. -/
def resolveMember (rs : Resolvers) (member : String) (target : Option String) : String :=
  let event := rs.listeners.foldl (fun e r => r.member e) ⟨member, target, none⟩
  match event.resolved, event.target with
  | some path, _ => path
  | none, some qualifier => qualifier ++ "." ++ event.member
  | none, none => event.member

/-- The path of a member below a dotted name. -/
def resolveJoinMember (rs : Resolvers) (qualifier member : String) : String :=
  let event := rs.listeners.foldl (fun e r => r.joinMember e) ⟨qualifier, member, none⟩
  event.resolved.getD (event.qualifier ++ "." ++ event.member)

/-- The translation of a call: what the chain sets, else what the built-in table sets. -/
def resolveMethod (rs : Resolvers) (table : MethodEvent → QueryResult MethodEvent)
    (event : MethodEvent) : QueryResult Expr := do
  let event ← rs.listeners.foldlM (fun e r => r.method e) event
  let event ← if event.resolved.isNone then table event else .ok event
  match event.resolved with
  | some e => .ok e
  | none => .error (.unresolvedMethod event.name)

end Resolvers

namespace MethodEvent

/-- The largest argument count, as it is worded where there is no bound. -/
def unbounded : Nat := Nat.pow 2 64 - 1

/-- Check the number of arguments. -/
def expectArgs (e : MethodEvent) (least most : Nat) : QueryResult Unit :=
  if least ≤ e.args.length ∧ e.args.length ≤ most then .ok ()
  else
    .error (.unsupported (e.name ++ "() takes " ++ Integer.natText least ++ " to " ++
      Integer.natText most ++ " arguments, found " ++ Integer.natText e.args.length))

/-- Claim a call. -/
def claim (e : MethodEvent) (result : Expr) : MethodEvent := { e with resolved := some result }

/-- Claim a call with a function of a bounded number of arguments. -/
def claimCall (e : MethodEvent) (func : Func) (least most : Nat) : QueryResult MethodEvent :=
  (e.expectArgs least most).map fun _ => e.claim (.call func e.args)

/-- Claim a call of two arguments with an arithmetic operator. -/
def claimArithmetic (e : MethodEvent) (op : ArithmeticOp) : QueryResult MethodEvent := do
  e.expectArgs 2 2
  match e.args with
  | left :: right :: _ => .ok (e.claim (.arithmetic op left right))
  | _ => .ok e

end MethodEvent

end Polyquery
