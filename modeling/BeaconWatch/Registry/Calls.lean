import BeaconWatch.Registry.Basic

/-!
Calls to a registry through its handles. Handles are cheap copies that share the records, so a call
acts on the registry alike through each of them.
-/

set_option autoImplicit false

namespace BeaconWatch.Registry

inductive Operation
  | update (identity : BeaconIdentity) (rssi : Int32) (now : Timestamp)
  | record (sighting : Sighting) (now : Timestamp)
  | snapshot
  | get (key : IdentityKey)
  | age (key : IdentityKey) (now : Timestamp)
  | size
  | count (source : IntakePath)
  | expiration
  deriving DecidableEq

structure Call where
  handle : Nat
  operation : Operation
  deriving DecidableEq

inductive Answer
  | records (records : List BeaconRecord)
  | record (record : Option BeaconRecord)
  | age (age : Option Duration)
  | size (size : Nat) (isEmpty : Bool)
  | count (count : Nat)
  | expiration (expiration : Duration)
  deriving DecidableEq

-- Only the two updates change the registry; they answer with what they leave in it.
def after (registry : Registry) : Operation → Registry
  | .update identity rssi now => registry.updateAt identity rssi now
  | .record sighting now => registry.recordAt sighting now
  | .snapshot | .get _ | .age _ _ | .size | .count _ | .expiration => registry

def answer (registry : Registry) : Operation → Answer
  | .update identity rssi now => .records (registry.updateAt identity rssi now).snapshot
  | .record sighting now => .records (registry.recordAt sighting now).snapshot
  | .snapshot => .records registry.snapshot
  | .get key => .record (registry.get? key)
  | .age key now => .age ((registry.get? key).map fun record => record.age now)
  | .size => .size registry.size registry.isEmpty
  | .count source => .count (registry.countBySource source)
  | .expiration => .expiration registry.expiration

def call (registry : Registry) (call : Call) : Answer × Registry :=
  (registry.answer call.operation, registry.after call.operation)

def run (registry : Registry) (calls : List Call) : Registry :=
  calls.foldl (fun registry call => (registry.call call).2) registry

@[simp] theorem run_nil (registry : Registry) : registry.run [] = registry := rfl

@[simp] theorem run_cons (registry : Registry) (call : Call) (calls : List Call) :
    registry.run (call :: calls) = (registry.call call).2.run calls := rfl

end BeaconWatch.Registry
