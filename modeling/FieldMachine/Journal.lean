import FieldMachine.Host

/-!
# The journal

What a running field reports about itself, one entry per event.  Entries say
what happened; their level and wording are in `Entry.line`.  Lines that the host
writes take their place among the entries.
-/

namespace FieldMachine

set_option autoImplicit false

/-- How insistent a call of another script is. -/
inductive CallStrength
  /-- A refusal is ignored. -/
  | forget
  /-- Tried again every tick until it is accepted. -/
  | retry
  /-- Tried until accepted, and then waits for the script to return. -/
  | wait
deriving DecidableEq

/-- The text of a strength. -/
def CallStrength.describe : CallStrength → String
  | .forget => "Forget"
  | .retry => "Retry"
  | .wait => "Wait"

/-- Something that a running field reports about itself. -/
inductive Entry
  | entered (name : String) (entities budget : Nat)
  | executing (entity priority ip : Nat) (byte : UInt8)
  | woken (token : ResumeToken) (reason : Option PauseReason)
  | staleResume (token : ResumeToken)
  | laneBusy (priority script : Nat)
  | noSuchScript (script : Nat)
  | noSuchLane (priority : Nat)
  | called (caller : Nat) (target : EntityId) (priority script : Nat) (strength : CallStrength)
      (accepted : Bool)
  | paused (entity priority : Nat) (reason : PauseReason)
  | starved (entity priority budget : Nat)
  | faulted (fault : Fault)
  | answerDropped (token : ResumeToken) (error : AddressError)
  | scrollDone (frame : Nat) (position : Point)
  | fadeDone (frame : Nat) (amount : UInt16)
  | choreographyDone (frame : Nat)
  | choreographyStarted (entity walkers : Nat) (frames : UInt16)
  | musicIgnored (id : UInt8)
  | noMoviePrepared (entity : Nat)
  | noPlayer
  | leaving (entity : Nat) (field : UInt16)
  | fieldCacheHint (entity : Nat)
  | partyFull (character : UInt8)
  /-- A line that the host wrote. -/
  | host (line : LogLine)
deriving DecidableEq

namespace Entry

/-- The line of an entry. -/
def line : Entry → LogLine
  | .entered name entities budget =>
      ⟨.debug, s!"field {name}: {entities} entities, {budget} ops per tick"⟩
  | .executing entity priority ip byte =>
      ⟨.info, s!"[{entity}:{priority}] 0x" ++ Numeral.hexUpper 4 ip ++ " " ++ mnemonicOf byte⟩
  | .woken token reason =>
      let why := match reason with
        | some reason => s!"Some({reason.describe})"
        | none => "None"
      ⟨.info, s!"wake {describeEntity token.entity} priority {token.priority} epoch {token.epoch}: "
        ++ why⟩
  | .staleResume token => ⟨.info, s!"stale resume for {token.describe}"⟩
  | .laneBusy priority script =>
      ⟨.info, s!"invoke refused: priority {priority} busy with script {script}"⟩
  | .noSuchScript script => ⟨.warn, s!"invoke: script index {script} out of range"⟩
  | .noSuchLane priority => ⟨.warn, s!"invoke: priority {priority} out of range"⟩
  | .called caller target priority script strength accepted =>
      ⟨.info, s!"entity {caller} -> {describeEntity target} priority {priority} script {script} ({strength.describe}): "
        ++ (if accepted then "accepted" else "refused")⟩
  | .paused entity priority reason =>
      ⟨.info, s!"entity {entity} priority {priority} paused: {reason.describe}"⟩
  | .starved entity priority budget =>
      ⟨.info, s!"entity {entity} priority {priority} used its {budget} ops this tick"⟩
  | .faulted fault => ⟨.warn, s!"script fault: {fault.message}"⟩
  | .answerDropped token error =>
      ⟨.warn, s!"answer for {token.describe} dropped: {error.message}"⟩
  | .scrollDone frame position =>
      ⟨.info, s!"frame {frame}: scroll done at {position.describe}"⟩
  | .fadeDone frame amount => ⟨.info, s!"frame {frame}: fade reached {amount}"⟩
  | .choreographyDone frame => ⟨.info, s!"frame {frame}: choreography done"⟩
  | .choreographyStarted entity walkers frames =>
      ⟨.info, s!"entity {entity}: {walkers} walkers over {frames} frames"⟩
  | .musicIgnored id => ⟨.debug, s!"MUSIC {id} ignored: music locked"⟩
  | .noMoviePrepared entity =>
      ⟨.warn, s!"MOVIE without a prepared movie (entity {entity})"⟩
  | .noPlayer => ⟨.debug, "SCRLC without a player entity"⟩
  | .leaving entity field => ⟨.debug, s!"entity {entity} jumps to field {field}"⟩
  | .fieldCacheHint entity => ⟨.trace, s!"PMJMP2 from entity {entity}"⟩
  | .partyFull character => ⟨.debug, s!"PRTYP {character}: party is full"⟩
  | .host line => line

/-- The text of an entry with its level in front. -/
def render (entry : Entry) : String := entry.line.render

end Entry

end FieldMachine
