import Preflight.Cluster.Inventory

/-! # Sessions on a cluster
Two users share one inventory and one count of reads; whether the lifecycle manager can be reached, and how long
a read takes, is each user's own. Every request that reads counts once, whatever its answer. -/
namespace Preflight

/-- The two users of a session. -/
inductive User | first | second
  deriving DecidableEq

/-- What a user's reads depend on besides the inventory. -/
structure Access where
  managerAvailable : Bool := true
  latency : Nat := 0

inductive Request where
  | install (type : ResourceType)
  | addObject (type : ResourceType) (object : Object)
  | addSubscription (subscription : Subscription)
  | addFailure (type : ResourceType) (failure : ReadFailure)
  | clear
  | loseManager
  | setLatency (milliseconds : Nat)
  | list (type : ResourceType) (options : ListOptions)
  | listPartial (type : ResourceType) (options : ListOptions)
  | listOrEmpty (type : ResourceType) (options : ListOptions)
  | listOrEmptyPartial (type : ResourceType) (options : ListOptions)
  | get (type : ResourceType) (name : String) (namespaceName : Option String)
  | getSingleton (type : ResourceType)
  | listSubscriptions
  | isManagerAvailable
  | countReads

inductive Reply where
  | done
  | objects (items : List Object)
  | partialObjects (items : List PartialObject)
  | object (item : Object)
  | singleton (item : Option Object)
  | subscriptions (items : List Subscription)
  | flag (value : Bool)
  | count (value : Nat)
  | failed (failure : ReadFailure)

namespace Request

def reads : Request → Bool
  | .list .. | .listPartial .. | .listOrEmpty .. | .listOrEmptyPartial .. | .get .. | .getSingleton ..
  | .listSubscriptions => true
  | _ => false

end Request

structure Session where
  inventory : Inventory
  subscriptionFailure : Option ReadFailure := none
  firstAccess : Access := {}
  secondAccess : Access := {}
  reads : Nat := 0

namespace Session

/-- Two users who see the cluster alike. -/
def ofCluster (c : Cluster) : Session :=
  let access : Access := ⟨c.managerAvailable, c.latency⟩
  { inventory := c.inventory, subscriptionFailure := c.subscriptionFailure, firstAccess := access,
    secondAccess := access }

def access (s : Session) : User → Access
  | .first => s.firstAccess
  | .second => s.secondAccess

def setAccess (s : Session) (user : User) (access : Access) : Session :=
  match user with
  | .first => { s with firstAccess := access }
  | .second => { s with secondAccess := access }

def view (s : Session) (user : User) : Cluster :=
  { inventory := s.inventory, subscriptionFailure := s.subscriptionFailure,
    managerAvailable := (s.access user).managerAvailable, latency := (s.access user).latency }

def replyOf {α : Type} (reply : α → Reply) : Except ReadFailure α → Reply
  | .ok a => reply a
  | .error e => .failed e

def answer (s : Session) (user : User) : Request → Reply
  | .list type options => replyOf .objects (s.inventory.list type options)
  | .listPartial type options =>
    replyOf (fun os => .partialObjects (os.map (Object.toPartial type))) (s.inventory.list type options)
  | .listOrEmpty type options => replyOf .objects (orEmpty (s.inventory.list type options))
  | .listOrEmptyPartial type options =>
    replyOf (fun os => .partialObjects (os.map (Object.toPartial type))) (orEmpty (s.inventory.list type options))
  | .get type name namespaceName => replyOf .object (s.inventory.get type name namespaceName)
  | .getSingleton type => replyOf .singleton (singletonOf type (s.inventory.list type {}))
  | .listSubscriptions => replyOf .subscriptions (s.view user).subscriptions
  | .isManagerAvailable => .flag (s.access user).managerAvailable
  | .countReads => .count s.reads
  | _ => .done

def update (s : Session) (user : User) : Request → Session
  | .install type => { s with inventory := s.inventory.install type }
  | .addObject type object => { s with inventory := s.inventory.addObject type object }
  | .addSubscription subscription => { s with inventory := s.inventory.addSubscription subscription }
  | .addFailure type failure => { s with inventory := s.inventory.addFailure type failure }
  | .clear => { s with inventory := s.inventory.clear }
  | .loseManager => s.setAccess user { s.access user with managerAvailable := false }
  | .setLatency milliseconds => s.setAccess user { s.access user with latency := milliseconds }
  | r => if r.reads then { s with reads := s.reads + 1 } else s

def perform (s : Session) (user : User) (r : Request) : Session × Reply := (s.update user r, s.answer user r)

end Session

end Preflight
