import UnitOfWork.Script.Entry

/-!
# Steps on coordinators, holders and connections

What the steps do that are allowed everywhere.  A step whose slot is empty fails
and changes nothing.
-/

namespace UnitOfWork.Script

/-- What a step leaves behind. -/
structure Effect (V : Type) where
  outcome : Outcome V
  state : State
  slots : Slots

namespace Effect

variable {V : Type}

def answer (reply : Reply V) (s : State) (slots : Slots) : Effect V :=
  ⟨.ok reply, s, slots⟩

/-- A step that fails for a reason of its own and changes nothing. -/
def refuse (e : StepError) (s : State) (slots : Slots) : Effect V :=
  ⟨.error (.own e), s, slots⟩

def ofResult (reply : α → Reply V) (result : Except TransactionError α)
    (s : State) (slots : Slots) : Effect V :=
  match result with
  | .ok a => ⟨.ok (reply a), s, slots⟩
  | .error e => ⟨.error (.transaction e), s, slots⟩

/-- A step that needs the content of a slot. -/
def withSlot (content : Option α) (missing : StepError) (s : State)
    (slots : Slots) (next : α → Effect V) : Effect V :=
  match content with
  | some a => next a
  | none => refuse missing s slots

end Effect

namespace Slots

def setHandle (slots : Slots) (hd : Header) (h : Option Handle) : Slots :=
  { slots with handles := setSlot slots.handles hd.handle h }

def setSuspended (slots : Slots) (hd : Header) (id : Option HolderId) : Slots :=
  { slots with suspended := setSlot slots.suspended hd.suspendedSlot id }

def setHolder (slots : Slots) (hd : Header) (id : HolderId) : Slots :=
  { slots with holders := setSlot slots.holders hd.holderSlot (some id) }

def setConnection (slots : Slots) (hd : Header) (c : Connection) : Slots :=
  { slots with
    connections := setSlot slots.connections hd.connectionSlot (some c) }

end Slots

variable {V : Type}

/-- Puts a connection into the slot of a step, which answers its number. -/
def keepConnection (hd : Header) (slots : Slots) :
    Except TransactionError Connection × State → Effect V
  | (.ok c, s) => .answer (.number c.id) s (slots.setConnection hd c)
  | (.error e, s) => ⟨.error (.transaction e), s, slots⟩

/-- Puts a holder into the slot of a step, which answers its state. -/
def keepHolder (hd : Header) (slots : Slots) (id : HolderId) (s : State) :
    Effect V :=
  .answer (.holder (s.holders id)) s (slots.setHolder hd id)

def askConnection (c : Connection) (s : State) (slots : Slots) :
    Option Inquiry → Effect V
  | some (.call call) =>
      match s.callDirectly c call, call with
      | (.ok (), s'), .execute _ => .answer (.number 0) s' slots
      | (.ok (), s'), _ => .answer .nothing s' slots
      | (.error fault, s'), _ => ⟨.error (.own (.fault fault)), s', slots⟩
  | some .autoCommit => .answer (.flag (s.autoCommit c)) s slots
  | some .isolation => .answer (.level (s.isolation c)) s slots
  | some .text => .answer (.text c.text) s slots
  | none => .refuse .badStep s slots

def commandHolder (id : HolderId) (cmd : Holder.Command Connection) (s : State)
    (slots : Slots) : Effect V :=
  match (s.holders id).perform s.now cmd with
  | (result, holder) =>
      .answer (.commanded result holder) (s.setHolder id holder) slots

def HandleAction.perform (c : Coordinator) (hd : Header) (h : Handle)
    (s : State) (slots : Slots) : HandleAction → Effect V
  | .existing => .answer (.flag (h.isActive s)) s slots
  | .begin d =>
      match c.begin d h s with
      | (result, h', s') =>
          .ofResult (fun _ => .nothing) result s' (slots.setHandle hd (some h'))
  | .commit =>
      match Coordinator.commit h s with
      | (result, s') => .ofResult (fun _ => .nothing) result s' slots
  | .rollback =>
      match Coordinator.rollback h s with
      | (result, s') => .ofResult (fun _ => .nothing) result s' slots
  | .markRollbackOnly =>
      match Coordinator.markRollbackOnly h s with
      | (result, h', s') =>
          .ofResult (fun _ => .nothing) result s' (slots.setHandle hd (some h'))
  | .connectionOf =>
      match h.connection s with
      | .ok connection => keepConnection hd slots (.ok connection, s)
      | .error reason => ⟨.error (.transaction (.illegal reason)), s, slots⟩
  | .holderOf =>
      match h.holder with
      | some id => keepHolder hd slots id s
      | none => ⟨.error (.transaction (.illegal .noHolder)), s, slots⟩
  | .cleanup => .answer .nothing (c.cleanup h s) (slots.setHandle hd none)
  | .suspend =>
      match c.suspend h s with
      | (some id, h', s') =>
          .answer (.flag true) s'
            ((slots.setHandle hd (some h')).setSuspended hd (some id))
      | (none, h', s') =>
          .answer (.flag false) s' (slots.setHandle hd (some h'))
  | .info => .answer .nothing s slots

def Action.perform (c : Coordinator) (hd : Header) (s : State) (slots : Slots)
    (action : Action) : Effect V :=
  let key := hd.key.getD c.key
  let onHolder :=
    Effect.withSlot (V := V) (slots.holders hd.holderSlot) .noHolder s slots
  let onConnection := Effect.withSlot (V := V)
    (slots.connections hd.connectionSlot) .noConnection s slots
  let onSuspended := Effect.withSlot (V := V) (slots.suspended hd.suspendedSlot)
    .noSuspended s slots
  match action with
  | .discover => .answer .nothing s (slots.setHandle hd (some (c.discover s)))
  | .onHandle action =>
      .withSlot (slots.handles hd.handle) .noHandle s slots fun h =>
        action.perform c hd h s slots
  | .resume =>
      onSuspended fun id =>
        match c.resume id s with
        | (result, s') =>
            .ofResult (fun _ => .nothing) result s' (slots.setSuspended hd none)
  | .suspendedHolder => onSuspended fun id => keepHolder hd slots id s
  | .boundHolder =>
      match s.boundHolder key with
      | some id => keepHolder hd slots id s
      | none => .answer .nothing s slots
  | .newHolder =>
      onConnection fun connection =>
        match s.addHolder (.of connection) with
        | (id, s') => keepHolder hd slots id s'
  | .bind =>
      onHolder fun id =>
        match s.bind key id with
        | .ok s' => .answer .nothing s' slots
        | .error occupied => .refuse (.occupied occupied) s slots
  | .unbind =>
      match s.unbind key with
      | (some id, s') => keepHolder hd slots id s'
      | (none, s') => .answer .nothing s' slots
  | .holder (some cmd) => onHolder fun id => commandHolder id cmd s slots
  | .holder none => onHolder fun _ => .refuse .badStep s slots
  | .setConnection false =>
      onHolder fun id => commandHolder id (.setConnection none) s slots
  | .setConnection true =>
      onHolder fun id => onConnection fun connection =>
        commandHolder id (.setConnection (some connection)) s slots
  | .getConnection => keepConnection hd slots (c.source.getConnection s)
  | .releaseConnection =>
      onConnection fun connection =>
        match c.source.releaseConnection connection s with
        | (result, s') => .ofResult (fun _ => .nothing) result s' slots
  | .isTransactional =>
      onConnection fun connection =>
        .answer (.flag (s.isTransactional key connection)) s slots
  | .inquire inquiry => onConnection fun connection =>
      askConnection connection s slots inquiry
  | .setFault fault on =>
      .answer .nothing
        (s.setDriver c.source.id ((s.drivers c.source.id).setFault fault on))
        slots
  | .clearEvents =>
      .answer .nothing
        (s.setDriver c.source.id (s.drivers c.source.id).clearEvents) slots
  | .saw event => .answer (.flag ((s.drivers c.source.id).saw event)) s slots
  | .sessions =>
      .answer (.sessions (s.drivers c.source.id).openSessions) s slots
  | .timeout d =>
      match c.config.timeLimit d with
      | some seconds => .answer (.number seconds) s slots
      | none => .answer .nothing s slots
  | .unknown => .refuse .badStep s slots

end UnitOfWork.Script
