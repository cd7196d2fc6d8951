import RemoteAgent.Client.State

/-!
# Calls for files

A call runs a transfer. It goes on when the request that it waits for does: at its turn the
request is sent, and with the reply the transfer makes its next request. A request ends
with its reply, with its deadline, with its socket, or for want of an open link.
-/

namespace RemoteAgent.Client

/-- A call ends. -/
def finish (client : Client) (call : Call) (outcome : Except Failure Delivery) : Client :=
  { client with calls := client.calls.filter (·.number != call.number) }.note
    (.finished call.number call.progress outcome)

/-- A call waits for its request. -/
def keep (client : Client) (call : Call) : Client :=
  { client with calls := client.calls.filter (·.number != call.number) ++ [call] }

/-- A request fails, and the call that waits for it fails with it. -/
def failRequest (client : Client) (number : Nat) (failure : Failure) : Client :=
  let ended := client.note (.answered number (.error failure))
  match ended.calls.find? (·.request == number) with
  | none => ended
  | some call => ended.finish call (.error failure)

/-- A request at its turn is sent. Without an open link it fails. -/
def sendRequest (client : Client) (request : Request) : Client :=
  match client.link.accept request.frame with
  | some (link, generation) =>
    ({ client with
        link
        requests := client.requests.enter request generation client.clock }.note
      (.accepted generation request.frame)).note (.sent request.number generation)
  | none =>
    { client with requests := client.requests.release request }.failRequest request.number
      .notConnected

/-- A call makes a request, and waits for it. -/
def issue (client : Client) (call : Call) (want : Want) : Client × Request :=
  let (requests, request) := client.requests.issue want call.limit
  (({ client with requests }.note (.issued request.number request.key)).keep
    { call with request := request.number }, request)

/-- A call makes a request, which is sent at once when no other one with its key is under
way. -/
def ask (client : Client) (call : Call) (want : Want) : Client :=
  let (issued, request) := client.issue call want
  match request.standing with
  | .granted => issued.sendRequest request
  | _ => issued

/-- A call goes on as its transfer does. -/
def proceed (client : Client) (call : Call) : Transfer.Turn → Client
  | .stop result => client.finish call result
  | .go transfer =>
    match transfer.wants client.config.chunkSize with
    | .ok want => client.ask { call with transfer } want
    | .error failure => client.finish call (.error failure)

/-- Calls for a file operation whose requests may each wait for so long. -/
def start (client : Client) (operation : Operation) (limit : Option Duration) : Client :=
  let number := client.called
  let counted := { client with called := number + 1 }.note (.started number operation)
  match Transfer.begin operation with
  | .stop result => counted.note (.finished number [] result)
  | .go transfer =>
    counted.proceed { number, transfer, limit, progress := [], request := 0 } (.go transfer)

/-- A request has its reply, with which the call that waits for it goes on. -/
def answerRequest (client : Client) (number : Nat) (reply : Reply) : Client :=
  let ended := client.note (.answered number (.ok reply))
  match ended.calls.find? (·.request == number) with
  | none => ended
  | some call =>
    let (progress, turn) := call.transfer.resume client.config.chunkSize reply
    ended.proceed { call with progress := call.progress ++ progress.toList } turn

/-- A request runs. -/
def poll (client : Client) (number : Nat) : Client :=
  let rested := { client with requests := client.requests.rest number }
  match client.requests.find? number with
  | none => rested
  | some request =>
    let released := { client with requests := client.requests.release request }
    match request.standing with
    | .queued => rested
    | .granted => client.sendRequest request
    | .waiting _ _ =>
      match request.limit with
      | some limit =>
        if request.isOverdue client.clock then
          released.failRequest number (.requestTimeout request.key limit.milliseconds)
        else rested
      | none => rested
    | .answered reply => released.answerRequest number reply
    | .disconnected => released.failRequest number .connectionClosed

/-- A call is given up, and its request with it. -/
def abandon (client : Client) (number : Nat) : Client :=
  match client.calls.find? (·.number == number) with
  | none => client
  | some call =>
    let left := { client with calls := client.calls.filter (·.number != number) }
    match left.requests.find? call.request with
    | none => left
    | some request => { left with requests := left.requests.drop request }

end RemoteAgent.Client
