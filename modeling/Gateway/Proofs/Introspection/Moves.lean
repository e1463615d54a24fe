import Gateway.Introspection.Interleaving
import Gateway.Proofs.Introspection.Answers

/-!
Everything that one move of a call can do, said once: `Moved` has a constructor for each kind of
move, with what the call found and what it did. What every move keeps is shown by cases on it.
-/

namespace Gateway.Introspection

namespace World

/-- What the next move of a call comes to. -/
inductive Moved (setting : Setting) (world : World) (id : CallId) : World × List Event → Prop where
  | still : Moved setting world id (world, [])
  | pass (call : Call) (called : world.calls[id]? = some call)
      (stood : world.standings[id]? = some .starting) (nothingKept : setting.ttl ≤ 0) :
      Moved setting world id (world.setPhase id (.missed none), [])
  | openLock (call : Call) (called : world.calls[id]? = some call)
      (stood : world.standings[id]? = some .starting) (keeps : 0 < setting.ttl) :
      Moved setting world id ((world.setLane call.token
        (world.table.lane call.token).openLock.2).setPhase id
          (.opened (world.table.lane call.token).openLock.1), [])
  | joinLine (call : Call) (generation : Nat) (called : world.calls[id]? = some call)
      (stood : world.standings[id]? = some (.opened generation)) :
      Moved setting world id ((world.setLane call.token
        ((world.table.lane call.token).acquire generation id).2).setPhase id
          (.waiting generation), [])
  | hit (call : Call) (generation : Nat) (claims : Claims) (called : world.calls[id]? = some call)
      (stood : world.standings[id]? = some (.waiting generation))
      (holds : ((world.table.lane call.token).lock generation).holder = some id)
      (found : (world.look call.token).1 = some claims) :
      Moved setting world id
        ((world.look call.token).2.setPhase id (.leaving generation (.ok claims) world.now),
          [.returned id (.ok claims) world.now])
  | miss (call : Call) (generation : Nat) (called : world.calls[id]? = some call)
      (stood : world.standings[id]? = some (.waiting generation))
      (holds : ((world.table.lane call.token).lock generation).holder = some id)
      (absent : (world.look call.token).1 = none) :
      Moved setting world id
        ((world.look call.token).2.setPhase id (.missed (some generation)), [])
  | refuse (call : Call) (generation : Option Nat) (error : GatewayError)
      (called : world.calls[id]? = some call)
      (stood : world.standings[id]? = some (.missed generation))
      (refused : setting.introspector.prepare call.token = .error error) :
      Moved setting world id (world.conclude id generation (.error error),
        [.returned id (.error error) world.now])
  | ask (call : Call) (generation : Option Nat) (request : Request)
      (called : world.calls[id]? = some call)
      (stood : world.standings[id]? = some (.missed generation))
      (made : setting.introspector.request call.context call.token = .ok request) :
      Moved setting world id
        ((world.send (world.sending call.token request)).setPhase id (.calling generation
          (setting.server world.sent (world.sending call.token request))),
          [.asked id (world.sending call.token request)
            (setting.server world.sent (world.sending call.token request))])
  | fail (call : Call) (generation : Option Nat) (reply : Reply) (error : GatewayError)
      (called : world.calls[id]? = some call)
      (stood : world.standings[id]? = some (.calling generation reply))
      (failed : setting.introspector.judge reply = .error error) :
      Moved setting world id (world.conclude id generation (.error error),
        [.returned id (.error error) world.now])
  | take (call : Call) (reply : Reply) (claims : Claims) (bytes : Bytes)
      (called : world.calls[id]? = some call)
      (stood : world.standings[id]? = some (.calling none reply))
      (answered : setting.introspector.judge reply = .ok (claims, bytes)) :
      Moved setting world id (world.conclude id none (.ok claims),
        [.returned id (.ok claims) world.now])
  | keep (call : Call) (generation : Nat) (reply : Reply) (claims : Claims) (bytes : Bytes)
      (called : world.calls[id]? = some call)
      (stood : world.standings[id]? = some (.calling (some generation) reply))
      (answered : setting.introspector.judge reply = .ok (claims, bytes)) :
      Moved setting world id
        ((world.keep (world.writeOf setting call claims bytes)).conclude id (some generation)
          (.ok claims),
          [.stored id (world.writeOf setting call claims bytes),
            .returned id (.ok claims) world.now])
  | withdraw (call : Call) (generation : Nat) (result : Except GatewayError Claims) (finish : Nat)
      (called : world.calls[id]? = some call)
      (stood : world.standings[id]? = some (.leaving generation result finish)) :
      Moved setting world id ((world.setLane call.token
        ((world.table.lane call.token).forget generation)).setPhase id
          (.releasing generation result finish), [])
  | release (call : Call) (generation : Nat) (result : Except GatewayError Claims) (finish : Nat)
      (called : world.calls[id]? = some call)
      (stood : world.standings[id]? = some (.releasing generation result finish)) :
      Moved setting world id ((world.setLane call.token
        ((world.table.lane call.token).handOver generation).2).setPhase id (.done result finish),
        [.released id call.token generation])

variable {setting : Setting} {world : World} {call : Call} {id : CallId}

theorem consult_moved {generation : Nat} (called : world.calls[id]? = some call)
    (stood : world.standings[id]? = some (.waiting generation))
    (holds : ((world.table.lane call.token).lock generation).holder = some id) :
    Moved setting world id (world.consult id call.token generation) := by
  unfold consult
  dsimp only
  split
  · rename_i claims found
    exact .hit call generation claims called stood holds found
  · rename_i absent
    exact .miss call generation called stood holds absent

theorem ask_moved {generation : Option Nat} (called : world.calls[id]? = some call)
    (stood : world.standings[id]? = some (.missed generation)) :
    Moved setting world id (world.ask setting id call generation) := by
  unfold World.ask
  split
  · rename_i error refused
    exact .refuse call _ error called stood (Introspector.request_eq_error_iff.mp refused)
  · rename_i request made
    exact .ask call _ request called stood made

theorem receive_moved {generation : Option Nat} {reply : Reply}
    (called : world.calls[id]? = some call)
    (stood : world.standings[id]? = some (.calling generation reply)) :
    Moved setting world id (world.receive setting id call generation reply) := by
  unfold World.receive
  split
  · rename_i error failed
    exact .fail call _ reply error called stood failed
  · rename_i claims bytes answered
    exact .take call reply claims bytes called stood answered
  · rename_i claims bytes held answered
    exact .keep call held reply claims bytes called stood answered

theorem advance_moved (setting : Setting) (world : World) (id : CallId) :
    Moved setting world id (world.advance setting id) := by
  unfold advance
  split
  · rename_i call called stood
    split
    · rename_i nothingKept
      exact .pass call called stood nothingKept
    · rename_i keeps
      exact .openLock call called stood (by omega)
  · rename_i call generation called stood
    exact .joinLine call generation called stood
  · rename_i call generation called stood
    split
    · rename_i holds
      exact consult_moved called stood holds
    · exact .still
  · rename_i call generation called stood
    exact ask_moved called stood
  · rename_i call generation reply called stood
    exact receive_moved called stood
  · rename_i call generation result finish called stood
    exact .withdraw call generation result finish called stood
  · rename_i call generation result finish called stood
    exact .release call generation result finish called stood
  · exact .still

end World

end Gateway.Introspection
