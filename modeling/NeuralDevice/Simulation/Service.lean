import NeuralDevice.Form.Execution

/-!
Simulated services. A service answers from a script and keeps a record of what it is asked. Scripts and
records are documents, so that one of each serves all dialects.
-/

namespace NeuralDevice.Simulation

structure Service where
  /-- A list of replies for each call, by the name of the call. -/
  script : Json
  /-- The names of the calls answered so far. -/
  answered : List String
  /-- What was asked since the record was last cleared. -/
  record : List Json
  /-- How many models were prepared; each is known by its number. -/
  preparedCount : Nat
  /-- Who is told when the device dies. -/
  deviceRecipients : List Recipient
  /-- Who is told when a prepared model dies, by its number. -/
  preparedRecipients : List (Nat × Recipient)

namespace Service

def ofScript (script : Json) : Service := ⟨script, [], [], 0, [], []⟩

/-- The next reply to a call. The last one repeats, and a call without replies gets an empty one. -/
def next (service : Service) (call : String) : Json × Service :=
  let replies := (service.script.get call).toList
  let number := min (service.answered.count call) (replies.length - 1)
  ((replies[number]?).getD .null, { service with answered := call :: service.answered })

/-- Changes a service during a call. -/
def change (later : Service → Service) : Call Service Unit :=
  modify fun shared => { shared with remote := later shared.remote }

def note (question : Json) : Call Service Unit :=
  change fun service => { service with record := service.record ++ [question] }

/-- The next reply, unless the call fails on its way. -/
def answer (call : String) : Call Service Json := do
  let (reply, service) := (← get).remote.next call
  change fun _ => service
  if reply.has "transport" then throw (reply.at TransportError "transport")
  pure reply

/-- Notes the question and takes the next reply. -/
def ask (call : String) (question : Json) : Call Service Json := do
  note question
  answer call

/-- Answers a request to tell a recipient of a death. Every recipient that arrives is kept, also when the
answer says otherwise. -/
def link (call : String) (register : Service → Service) : Call Service Bool := do
  let reply ← answer call
  change register
  pure (reply.atOr "value" true)

def linkDevice (recipient : Recipient) : Call Service Bool :=
  link "link_to_death" fun service =>
    { service with deviceRecipients := service.deviceRecipients ++ [recipient] }

def linkPrepared (number : Nat) (recipient : Recipient) : Call Service Bool :=
  link "prepared.link_to_death" fun service =>
    { service with preparedRecipients := (number, recipient) :: service.preparedRecipients }

def recipientsOf (service : Service) (number : Nat) : List Recipient :=
  (service.preparedRecipients.filter fun entry => entry.1 == number).map (·.2)

def clear (service : Service) : Service := { service with record := [] }

end Service

end NeuralDevice.Simulation
