import FieldMachine.Console.Host
import FieldMachine.Proofs.Confinement

/-!
# Who is waited for

A lane that waits is woken by a token that somebody keeps: the end of a script
that it called, a choreography of the party, or a request that the host has yet
to answer.  Nobody else keeps a token of that lane, and what wakes it is what it
waits for (`Roster.Register`).  Tokens of entities that were removed are kept as
well, but they name no lane.

Every way in which an instruction can change the roster keeps this up, if the
tokens of a new choreography and of a new request are registered
(`Roster.Register.turn`); so does a token that is fired and crossed out
(`Roster.Register.wake_dance`, `Roster.Register.wake_request`).
-/

namespace FieldMachine

set_option autoImplicit false

open Console (Pending)

/-- Whether a lane waits for the answer to a request. -/
def PauseReason.isServed : PauseReason → Bool
  | .call | .fieldJump | .choreography => false
  | _ => true

theorem Opcode.Asks.isServed {op : Opcode} {request : Request} {reason : PauseReason}
    (asks : op.Asks request reason) : reason.isServed := by
  cases asks <;> rfl

namespace Lane

variable (lane : Lane) (id : EntityId) (priority : Nat)

/-- The token of a lane that waits for a choreography. -/
def dancing : List ResumeToken :=
  if lane.pauseReason? = some .choreography then [lane.token id priority] else []

/-- The token of a lane that waits for the answer to a request. -/
def requesting : List ResumeToken :=
  if lane.pauseReason?.any PauseReason.isServed then [lane.token id priority] else []

variable {lane id priority}

theorem dancing_of_running (running : lane.pauseReason? = none) : lane.dancing id priority = [] := by
  rw [dancing, running]
  rfl

theorem requesting_of_running (running : lane.pauseReason? = none) :
    lane.requesting id priority = [] := by
  rw [requesting, running]
  rfl

end Lane

namespace Roster

variable {roster after : Roster} {id : EntityId} {priority : Nat} {lane : Lane}
  {token : ResumeToken}

/-- The lane that a token names waits in such a way. -/
def Awaits (roster : Roster) (token : ResumeToken) (how : Lane → PauseReason → Prop) : Prop :=
  ∃ lane reason, roster.lane? token.entity token.priority = some lane ∧
    lane.epoch = token.epoch ∧ lane.pauseReason? = some reason ∧ how lane reason

/-- A lane fires a token at its end. -/
def Owing (roster : Roster) (id : EntityId) (priority : Nat) (token : ResumeToken) : Prop :=
  ∃ lane, roster.lane? id priority = some lane ∧ lane.onStop? = some token

/-- Who owes a token after a lane was put in place owed it before, or is that lane. -/
theorem Owing.of_put {other : EntityId} {level : Nat} {placed : Lane}
    (owing : (roster.put id priority placed).Owing other level token) :
    (other = id ∧ level = priority) ∧ placed.onStop? = some token ∨
      roster.Owing other level token := by
  obtain ⟨found, there, told⟩ := owing
  rw [lane?_put] at there
  split at there
  · next own =>
      cases there
      exact .inl ⟨own, told⟩
  · exact .inr ⟨found, there, told⟩

/-- What lanes owe does not change when one of them is woken. -/
theorem Owing.of_wake {fired : ResumeToken} (owing : (roster.wake fired).Owing id priority token) :
    roster.Owing id priority token := by
  obtain ⟨found, there, told⟩ := owing
  obtain ⟨lane, here, rfl⟩ := Option.map_eq_some_iff.mp there
  exact ⟨lane, here, by simpa using told⟩

section Awaits

variable {how other : Lane → PauseReason → Prop}

theorem Awaits.mono (awaits : roster.Awaits token how)
    (weaker : ∀ lane reason, how lane reason → other lane reason) : roster.Awaits token other := by
  obtain ⟨lane, reason, here, named, paused, holds⟩ := awaits
  exact ⟨lane, reason, here, named, paused, weaker lane reason holds⟩

/-- A lane waits in one way only. -/
theorem Awaits.both (awaits : roster.Awaits token how) (also : roster.Awaits token other) :
    ∃ lane reason, how lane reason ∧ other lane reason := by
  obtain ⟨lane, reason, here, named, paused, holds⟩ := awaits
  obtain ⟨found, known, there, -, stopped, holdsToo⟩ := also
  rw [here] at there
  cases there
  rw [paused] at stopped
  cases stopped
  exact ⟨lane, reason, holds, holdsToo⟩

/-- The running lane is not the one that waits. -/
theorem Awaits.apart (awaits : roster.Awaits token how)
    (here : roster.lane? id priority = some lane) (running : lane.pauseReason? = none) :
    ¬(token.entity = id ∧ token.priority = priority) := by
  rintro ⟨rfl, rfl⟩
  obtain ⟨found, reason, there, -, paused, -⟩ := awaits
  rw [here] at there
  cases there
  rw [running] at paused
  cases paused

theorem Awaits.put (awaits : roster.Awaits token how)
    (apart : ¬(token.entity = id ∧ token.priority = priority)) (placed : Lane) :
    (roster.put id priority placed).Awaits token how := by
  unfold Awaits
  rw [lane?_put_other _ apart]
  exact awaits

/-- A token wakes nobody but the lane that it names. -/
theorem Awaits.wake (awaits : roster.Awaits token how) {fired : ResumeToken}
    (apart : token ≠ fired) : (roster.wake fired).Awaits token how := by
  obtain ⟨lane, reason, here, named, paused, holds⟩ := awaits
  have deaf : lane.hear token.entity token.priority fired = lane := by
    refine Lane.hear_other fun own => apart ?_
    rw [own, Lane.token, named]
  exact ⟨lane, reason, by rw [lane?_wake, here, Option.map_some, deaf], named, paused, holds⟩

theorem Awaits.not_running (awaits : roster.Awaits (lane.token id priority) how)
    (here : roster.lane? id priority = some lane) : lane.pauseReason? ≠ none :=
  fun running => awaits.apart here running ⟨rfl, rfl⟩

end Awaits

/-- The lane that a token names waits in such a way, unless its entity is gone. -/
def Expects (roster : Roster) (gone : EntityId → Prop) (token : ResumeToken)
    (how : Lane → PauseReason → Prop) : Prop :=
  gone token.entity ∨ roster.Awaits token how

/-- All tokens that are kept, by whom, and what the lanes wait for that they name.  What is kept for
a request `holds` of the lane that waits.  Of entities that are `gone` there may be tokens left. -/
structure Register {Item : Type} (gone : EntityId → Prop) (tokenOf : Item → ResumeToken)
    (holds : Item → Lane → Prop) (dances : List ResumeToken) (requests : List Item)
    (roster : Roster) : Prop where
  absent : ∀ id, gone id → ∀ priority, roster.lane? id priority = none
  calls : ∀ id priority token, roster.Owing id priority token →
    roster.Expects gone token fun _ reason => reason = .call
  callee : ∀ id priority other level token, roster.Owing id priority token →
    roster.Owing other level token → id = other ∧ priority = level
  dance : ∀ token ∈ dances, roster.Expects gone token fun _ reason => reason = .choreography
  request : ∀ item ∈ requests, roster.Expects gone (tokenOf item) fun lane reason =>
    reason.isServed ∧ holds item lane
  dancesOnce : dances.Nodup
  requestsOnce : (requests.map tokenOf).Nodup
  /-- Nobody waits for the answer to a request that is not registered. -/
  all : ∀ id priority lane reason, roster.lane? id priority = some lane →
    lane.pauseReason? = some reason → reason.isServed →
    lane.token id priority ∈ requests.map tokenOf

/-- The register of the console, as long as nobody is removed. -/
abbrev Docket (holds : Pending → Lane → Prop) (dances : List ResumeToken)
    (requests : List Pending) (roster : Roster) : Prop :=
  roster.Register (fun _ => False) Pending.token holds dances requests

namespace Register

variable {Item : Type} {gone : EntityId → Prop} {tokenOf : Item → ResumeToken}
  {holds : Item → Lane → Prop} {dances : List ResumeToken} {requests : List Item}

/-- The entity of a lane is not gone. -/
theorem present (register : roster.Register gone tokenOf holds dances requests)
    (here : roster.lane? id priority = some lane) : ¬gone id := by
  intro left
  rw [register.absent id left priority] at here
  cases here

/-- Nobody keeps the token of a lane that runs. -/
theorem not_expected (register : roster.Register gone tokenOf holds dances requests)
    (here : roster.lane? id priority = some lane) (running : lane.pauseReason? = none)
    {how : Lane → PauseReason → Prop} : ¬roster.Expects gone (lane.token id priority) how := by
  rintro (left | awaits)
  · exact register.present here left
  · exact awaits.not_running here running

theorem served (register : roster.Register gone tokenOf holds dances requests)
    (listed : token ∈ requests.map tokenOf) :
    roster.Expects gone token fun _ reason => reason.isServed := by
  obtain ⟨item, member, rfl⟩ := List.mem_map.mp listed
  exact (register.request item member).imp_right fun awaits =>
    awaits.mono fun lane reason known => known.1

/-- Whoever owes a token is known by it, and the token is not registered. -/
theorem not_listed (register : roster.Register gone tokenOf holds dances requests)
    (owing : roster.Owing id priority token) (present : ¬gone token.entity) :
    token ∉ dances ∧ token ∉ requests.map tokenOf := by
  have called := (register.calls id priority token owing).resolve_left present
  constructor
  · intro listed
    obtain ⟨-, reason, rfl, other⟩ :=
      called.both ((register.dance token listed).resolve_left present)
    cases other
  · intro listed
    obtain ⟨-, reason, rfl, other⟩ := called.both ((register.served listed).resolve_left present)
    cases other

/-- A registered token is owed by nobody. -/
theorem not_owing (register : roster.Register gone tokenOf holds dances requests)
    (listed : token ∈ dances ∨ token ∈ requests.map tokenOf) (present : ¬gone token.entity)
    (id : EntityId) (priority : Nat) : ¬roster.Owing id priority token := by
  intro owing
  have unlisted := register.not_listed owing present
  rcases listed with dancing | requested
  · exact unlisted.1 dancing
  · exact unlisted.2 requested

/-- The token of a choreography is not kept for a request. -/
theorem not_both (register : roster.Register gone tokenOf holds dances requests)
    (danced : token ∈ dances) (present : ¬gone token.entity) : token ∉ requests.map tokenOf := by
  intro listed
  obtain ⟨-, reason, rfl, served⟩ := ((register.dance token danced).resolve_left present).both
    ((register.served listed).resolve_left present)
  cases served

/-- The register depends on the lanes alone. -/
theorem congr (register : roster.Register gone tokenOf holds dances requests)
    (same : after.lane? = roster.lane?) :
    after.Register gone tokenOf holds dances requests := by
  have awaits : @Awaits after = @Awaits roster := by
    funext token how
    simp only [Awaits, same]
  have expects : @Expects after = @Expects roster := by
    funext gone token how
    simp only [Expects, awaits]
  have owing : @Owing after = @Owing roster := by
    funext id priority token
    simp only [Owing, same]
  constructor
  · rw [same]
    exact register.absent
  · rw [owing, expects]
    exact register.calls
  · rw [owing]
    exact register.callee
  · rw [expects]
    exact register.dance
  · rw [expects]
    exact register.request
  · exact register.dancesOnce
  · exact register.requestsOnce
  · rw [same]
    exact register.all

/-- Nobody waits, nobody is waited for, and nobody is gone yet. -/
theorem nothing (idle : ∀ id priority lane, roster.lane? id priority = some lane →
    lane.pauseReason? = none ∧ lane.onStop? = none) :
    roster.Register (fun _ => False) tokenOf holds [] [] where
  absent _ := False.elim
  calls id priority token owing := by
    obtain ⟨lane, here, told⟩ := owing
    rw [(idle id priority lane here).2] at told
    cases told
  callee id priority other level token owing := by
    obtain ⟨lane, here, told⟩ := owing
    rw [(idle id priority lane here).2] at told
    cases told
  dance := nofun
  request := nofun
  dancesOnce := .nil
  requestsOnce := .nil
  all id priority lane reason here paused := by
    rw [(idle id priority lane here).1] at paused
    cases paused

/-- What is registered may be known to hold something else as well. -/
theorem mono {other : Item → Lane → Prop}
    (register : roster.Register gone tokenOf holds dances requests)
    (weaker : ∀ item ∈ requests, ∀ lane,
      roster.lane? (tokenOf item).entity (tokenOf item).priority = some lane → holds item lane →
        other item lane) : roster.Register gone tokenOf other dances requests where
  absent := register.absent
  calls := register.calls
  callee := register.callee
  dance := register.dance
  request item listed := by
    refine (register.request item listed).imp_right ?_
    rintro ⟨lane, reason, here, named, paused, served, known⟩
    exact ⟨lane, reason, here, named, paused, served, weaker item listed lane here known⟩
  dancesOnce := register.dancesOnce
  requestsOnce := register.requestsOnce
  all := register.all

/-- The order in the register does not matter. -/
theorem perm {others : List Item} (register : roster.Register gone tokenOf holds dances requests)
    (same : others.Perm requests) : roster.Register gone tokenOf holds dances others where
  absent := register.absent
  calls := register.calls
  callee := register.callee
  dance := register.dance
  request item listed := register.request item (same.mem_iff.mp listed)
  dancesOnce := register.dancesOnce
  requestsOnce := (same.map tokenOf).nodup_iff.mpr register.requestsOnce
  all id priority lane reason here paused served :=
    (same.map tokenOf).mem_iff.mpr (register.all id priority lane reason here paused served)

/-- Tokens may be crossed out, if those kept for requests are of entities that are gone. -/
theorem sublist {fewer : List ResumeToken} {others : List Item}
    (register : roster.Register gone tokenOf holds dances requests) (less : fewer.Sublist dances)
    (rest : others.Sublist requests)
    (settled : ∀ item ∈ requests, ¬gone (tokenOf item).entity → item ∈ others) :
    roster.Register gone tokenOf holds fewer others where
  absent := register.absent
  calls := register.calls
  callee := register.callee
  dance token listed := register.dance token (less.subset listed)
  request item listed := register.request item (rest.subset listed)
  dancesOnce := less.nodup register.dancesOnce
  requestsOnce := (rest.map tokenOf).nodup register.requestsOnce
  all id priority lane reason here paused served := by
    obtain ⟨item, member, named⟩ :=
      List.mem_map.mp (register.all id priority lane reason here paused served)
    refine List.mem_map.mpr ⟨item, settled item member fun left => ?_, named⟩
    rw [named] at left
    exact register.present here left

/-! ## Lanes that are put in place -/

/-- A lane that runs, or has ended, is put where none waited.  It may owe a token that it did not owe
before, if that is the token of a caller, and nobody else owes it. -/
theorem put_running (register : roster.Register gone tokenOf holds dances requests)
    {old placed : Lane} (here : roster.lane? id priority = some old)
    (idle : old.pauseReason? = none) (running : placed.pauseReason? = none)
    (owes : ∀ token, placed.onStop? = some token → old.onStop? = some token ∨
      (roster.Awaits token fun _ reason => reason = .call) ∧
        ∀ other level, ¬roster.Owing other level token) :
    (roster.put id priority placed).Register gone tokenOf holds dances requests := by
  have kept {token : ResumeToken} {how : Lane → PauseReason → Prop}
      (expects : roster.Expects gone token how) :
      (roster.put id priority placed).Expects gone token how :=
    expects.imp_right fun awaits => awaits.put (awaits.apart here idle) placed
  -- what is owed now was owed before, or is owed by this lane alone
  have before {other : EntityId} {level : Nat} {token : ResumeToken}
      (owing : (roster.put id priority placed).Owing other level token) :
      roster.Owing other level token ∨ (other = id ∧ level = priority) ∧
        (roster.Awaits token fun _ reason => reason = .call) ∧
          ∀ other level, ¬roster.Owing other level token := by
    rcases owing.of_put with ⟨⟨rfl, rfl⟩, told⟩ | earlier
    · rcases owes token told with kept | fresh
      · exact .inl ⟨old, here, kept⟩
      · exact .inr ⟨⟨rfl, rfl⟩, fresh⟩
    · exact .inl earlier
  refine ⟨?_, ?_, ?_, fun token listed => kept (register.dance token listed),
    fun item listed => kept (register.request item listed), register.dancesOnce,
    register.requestsOnce, ?_⟩
  · intro other left level
    refine (lane?_put_other _ ?_).trans (register.absent other left level)
    rintro ⟨rfl, rfl⟩
    exact register.present here left
  · intro other level token owing
    rcases before owing with earlier | ⟨-, called, -⟩
    · exact kept (register.calls other level token earlier)
    · exact kept (.inr called)
  · intro other level third height token first second
    rcases before first with earlier | ⟨⟨rfl, rfl⟩, -, fresh⟩
    · rcases before second with again | ⟨-, -, fresh⟩
      · exact register.callee other level third height token earlier again
      · exact absurd earlier (fresh other level)
    · rcases before second with again | ⟨⟨rfl, rfl⟩, -⟩
      · exact absurd again (fresh third height)
      · exact ⟨rfl, rfl⟩
  · intro other level found reason there paused served
    rw [lane?_put] at there
    split at there
    · cases there
      rw [running] at paused
      cases paused
    · exact register.all other level found reason there paused served

/-- The running lane waits, and its token is registered. -/
theorem pause (register : roster.Register gone tokenOf holds dances requests)
    (here : roster.lane? id priority = some lane) (running : lane.pauseReason? = none) (next : Nat)
    (reason : PauseReason) {danced : List ResumeToken} {requested : List Item}
    (dancing : danced = (lane.pause next reason).dancing id priority)
    (asked : requested.map tokenOf = (lane.pause next reason).requesting id priority)
    (fits : ∀ item ∈ requested, holds item (lane.pause next reason)) :
    (roster.put id priority (lane.pause next reason)).Register gone tokenOf holds
      (dances ++ danced) (requests ++ requested) := by
  let token := lane.token id priority
  let placed := roster.put id priority (lane.pause next reason)
  have kept {token : ResumeToken} {how : Lane → PauseReason → Prop}
      (expects : roster.Expects gone token how) : placed.Expects gone token how :=
    expects.imp_right fun awaits => awaits.put (awaits.apart here running) _
  have own {how : Lane → PauseReason → Prop} (holds : how (lane.pause next reason) reason) :
      placed.Expects gone token how :=
    .inr ⟨lane.pause next reason, reason, lane?_put_self .., rfl, rfl, holds⟩
  have fresh {how : Lane → PauseReason → Prop} : ¬roster.Expects gone token how :=
    register.not_expected here running
  have before {other : EntityId} {level : Nat} {token : ResumeToken}
      (owing : placed.Owing other level token) : roster.Owing other level token := by
    rcases owing.of_put with ⟨⟨rfl, rfl⟩, told⟩ | earlier
    · exact ⟨lane, here, told⟩
    · exact earlier
  have danced_eq : danced = if reason = .choreography then [token] else [] := by
    rw [dancing]
    simp [Lane.dancing, Lane.pause, Lane.pauseReason?, Lane.token, token]
  have asked_eq : requested.map tokenOf = if reason.isServed then [token] else [] := by
    rw [asked]
    rfl
  refine ⟨?_, fun other level token owing => kept (register.calls other level token (before owing)),
    fun other level third height token first second =>
      register.callee other level third height token (before first) (before second),
    ?_, ?_, ?_, ?_, ?_⟩
  · intro other left level
    refine (lane?_put_other _ ?_).trans (register.absent other left level)
    rintro ⟨rfl, rfl⟩
    exact register.present here left
  · rw [List.forall_mem_append, danced_eq]
    refine ⟨fun token listed => kept (register.dance token listed), ?_⟩
    split
    · next same => exact List.forall_mem_singleton.mpr (own same)
    · simp
  · rw [List.forall_mem_append]
    refine ⟨fun item listed => kept (register.request item listed), fun item listed => ?_⟩
    have member : tokenOf item ∈ requested.map tokenOf := List.mem_map_of_mem listed
    rw [asked_eq] at member
    split at member
    · next served =>
        rw [List.mem_singleton.mp member]
        exact own ⟨served, fits item listed⟩
    · cases member
  · rw [danced_eq]
    refine List.nodup_append.mpr ⟨register.dancesOnce, by split <;> simp, ?_⟩
    rintro first listed second member rfl
    split at member
    · rw [List.mem_singleton.mp member] at listed
      exact fresh (register.dance _ listed)
    · cases member
  · rw [List.map_append, asked_eq]
    refine List.nodup_append.mpr ⟨register.requestsOnce, by split <;> simp, ?_⟩
    rintro first listed second member rfl
    split at member
    · rw [List.mem_singleton.mp member] at listed
      exact fresh (register.served listed)
    · cases member
  · intro other level found known there paused served
    rw [List.map_append, List.mem_append]
    rw [lane?_put] at there
    split at there
    · next same =>
        cases there
        obtain ⟨rfl, rfl⟩ := same
        cases paused
        rw [asked_eq, if_pos served]
        exact .inr (List.mem_singleton.mpr rfl)
    · exact .inl (register.all other level found known there paused served)

/-! ## Tokens that are fired -/

/-- A token that nobody owes any more is fired and crossed out. -/
theorem wake (register : roster.Register gone tokenOf holds dances requests)
    (settled : ∀ id priority, ¬roster.Owing id priority token) :
    (roster.wake token).Register gone tokenOf holds (dances.filter (· ≠ token))
      (requests.filter (tokenOf · ≠ token)) := by
  have names : (requests.filter (tokenOf · ≠ token)).map tokenOf =
      (requests.map tokenOf).filter (· ≠ token) := by
    rw [List.filter_map]
    rfl
  refine ⟨?_, ?_, fun id priority other level owed first second =>
    register.callee id priority other level owed first.of_wake second.of_wake, ?_, ?_,
    register.dancesOnce.filter _, ?_, ?_⟩
  · intro id left priority
    rw [lane?_wake, register.absent id left priority]
    rfl
  · intro id priority owed owing
    refine (register.calls id priority owed owing.of_wake).imp_right fun awaits => awaits.wake ?_
    rintro rfl
    exact settled id priority owing.of_wake
  · intro other listed
    obtain ⟨member, apart⟩ := List.mem_filter.mp listed
    exact (register.dance other member).imp_right fun awaits => awaits.wake (by simpa using apart)
  · intro item listed
    obtain ⟨member, apart⟩ := List.mem_filter.mp listed
    exact (register.request item member).imp_right fun awaits => awaits.wake (by simpa using apart)
  · rw [names]
    exact register.requestsOnce.filter _
  · intro id priority found reason there paused served
    obtain ⟨lane, here, rfl⟩ := Option.map_eq_some_iff.mp there
    by_cases own : token = lane.token id priority
    · rw [own, Lane.hear_named, Lane.pauseReason?_awake] at paused
      cases paused
    · rw [Lane.hear_other own] at paused ⊢
      rw [names, List.mem_filter]
      exact ⟨register.all id priority lane reason here paused served, by simpa using Ne.symm own⟩

/-- A token that nobody keeps any more is fired. -/
theorem wake_unlisted (register : roster.Register gone tokenOf holds dances requests)
    (settled : ∀ id priority, ¬roster.Owing id priority token) (undanced : token ∉ dances)
    (unasked : token ∉ requests.map tokenOf) :
    (roster.wake token).Register gone tokenOf holds dances requests := by
  have fired := register.wake settled
  rw [List.filter_eq_self.mpr, List.filter_eq_self.mpr] at fired
  · exact fired
  · intro item listed
    rw [decide_eq_true_eq]
    rintro rfl
    exact unasked (List.mem_map_of_mem listed)
  · intro other listed
    rw [decide_eq_true_eq]
    rintro rfl
    exact undanced listed

/-- The token of an entity that is gone is fired in vain. -/
theorem wake_gone (register : roster.Register gone tokenOf holds dances requests)
    (left : gone token.entity) :
    (roster.wake token).Register gone tokenOf holds dances requests := by
  refine register.congr ?_
  funext id priority
  rw [lane?_wake]
  cases here : roster.lane? id priority with
  | none => rfl
  | some lane =>
      rw [Option.map_some, Lane.hear_other]
      rintro rfl
      exact register.present here left

/-- The token of a choreography is fired and crossed out. -/
theorem wake_dance {before rest : List ResumeToken}
    (register : roster.Register gone tokenOf holds (before ++ token :: rest) requests) :
    (roster.wake token).Register gone tokenOf holds (before ++ rest) requests := by
  have less : (before ++ rest).Sublist (before ++ token :: rest) :=
    (List.sublist_cons_self token rest).append_left before
  by_cases left : gone token.entity
  · exact (register.wake_gone left).sublist less (.refl requests) fun item member _ => member
  have listed : token ∈ before ++ token :: rest := by simp
  have once := register.dancesOnce
  rw [List.perm_middle.nodup_iff, List.nodup_cons] at once
  have crossed : roster.Register gone tokenOf holds (before ++ rest) requests :=
    register.sublist less (.refl requests) fun item member _ => member
  exact crossed.wake_unlisted (register.not_owing (.inl listed) left) once.1
    (register.not_both listed left)

/-- The token of the first request is fired and crossed out. -/
theorem wake_request {item : Item}
    (register : roster.Register gone tokenOf holds dances (item :: requests)) :
    (roster.wake (tokenOf item)).Register gone tokenOf holds dances requests := by
  by_cases left : gone (tokenOf item).entity
  · refine (register.wake_gone left).sublist (.refl dances) (List.sublist_cons_self item requests) ?_
    intro other member present
    rcases List.mem_cons.mp member with rfl | rest
    · exact absurd left present
    · exact rest
  have listed : tokenOf item ∈ (item :: requests).map tokenOf := by simp
  have fired := register.wake (register.not_owing (.inr listed) left)
  have once := register.requestsOnce
  rw [List.map_cons, List.nodup_cons] at once
  have others : (item :: requests).filter (tokenOf · ≠ tokenOf item) = requests := by
    rw [List.filter_cons_of_neg (by simp), List.filter_eq_self]
    intro other member
    rw [decide_eq_true_eq]
    intro same
    exact once.1 (same ▸ List.mem_map_of_mem member)
  have undanced : dances.filter (· ≠ tokenOf item) = dances := by
    rw [List.filter_eq_self]
    intro token member
    rw [decide_eq_true_eq]
    rintro rfl
    exact register.not_both member left listed
  rw [others, undanced] at fired
  exact fired

/-- The end of an invocation fires the token that it owes, which is not registered. -/
theorem finish (register : roster.Register gone tokenOf holds dances requests)
    (here : roster.lane? id priority = some lane) (running : lane.pauseReason? = none) :
    (roster.finish id priority lane).Register gone tokenOf holds dances requests := by
  have stopped : (roster.put id priority lane.finish).Register gone tokenOf holds dances requests :=
    register.put_running here running rfl nofun
  unfold Roster.finish
  cases told : lane.onStop? with
  | none => exact stopped
  | some token =>
      by_cases left : gone token.entity
      · exact stopped.wake_gone left
      obtain ⟨undanced, unasked⟩ := register.not_listed ⟨lane, here, told⟩ left
      refine stopped.wake_unlisted (fun other level owing => ?_) undanced unasked
      rcases owing.of_put with ⟨-, again⟩ | earlier
      · cases again
      · obtain ⟨rfl, rfl⟩ := register.callee other level id priority token earlier
          ⟨lane, here, told⟩
        obtain ⟨found, there, again⟩ := owing
        rw [lane?_put_self] at there
        cases there
        cases again

/-! ## Scripts that begin -/

theorem start (register : roster.Register gone tokenOf holds dances requests) {script entry : Nat}
    (admits : roster.Admits id priority script entry lane) :
    (roster.put id priority (lane.start entry script none)).Register gone tokenOf holds dances
      requests :=
  register.put_running admits.here (Lane.of_free admits.free).1 rfl nofun

theorem begins (register : roster.Register gone tokenOf holds dances requests) {script : Nat}
    (begins : roster.Begins id priority script after) :
    after.Register gone tokenOf holds dances requests := by
  cases begins with
  | refused => exact register
  | started admits => exact register.start admits

/-! ## Entities that are removed -/

/-- Tokens that nobody keeps any more are fired, or such of entities that are gone. -/
theorem wakeAll (register : roster.Register gone tokenOf holds dances requests)
    {tokens : List ResumeToken}
    (settled : ∀ token ∈ tokens, gone token.entity ∨
      (∀ id priority, ¬roster.Owing id priority token) ∧ token ∉ dances ∧
        token ∉ requests.map tokenOf) :
    (tokens.foldl Roster.wake roster).Register gone tokenOf holds dances requests := by
  induction tokens generalizing roster with
  | nil => exact register
  | cons token rest ih =>
      rw [List.forall_mem_cons] at settled
      have fired : (roster.wake token).Register gone tokenOf holds dances requests := by
        rcases settled.1 with left | ⟨unowed, undanced, unasked⟩
        · exact register.wake_gone left
        · exact register.wake_unlisted unowed undanced unasked
      refine ih fired fun other member => (settled.2 other member).imp_right ?_
      rintro ⟨unowed, unlisted⟩
      exact ⟨fun id priority owing => unowed id priority owing.of_wake, unlisted⟩

/-- Who waited for an entity that is removed is woken; its own tokens are left. -/
theorem remove (register : roster.Register gone tokenOf holds dances requests)
    {tokens : List ResumeToken}
    (fired : ∀ token ∈ tokens, ∃ priority, roster.Owing id priority token) :
    (tokens.foldl Roster.wake (roster.erase id)).Register (fun other => gone other ∨ other = id)
      tokenOf holds dances requests := by
  have kept {token : ResumeToken} {how : Lane → PauseReason → Prop}
      (expects : roster.Expects gone token how) :
      (roster.erase id).Expects (fun other => gone other ∨ other = id) token how := by
    by_cases own : token.entity = id
    · exact .inl (.inr own)
    · rcases expects with left | ⟨lane, reason, here, named, paused, holds⟩
      · exact .inl (.inl left)
      · exact .inr ⟨lane, reason, (if_neg own).trans here, named, paused, holds⟩
  have before {other : EntityId} {level : Nat} {token : ResumeToken}
      (owing : (roster.erase id).Owing other level token) :
      other ≠ id ∧ roster.Owing other level token := by
    obtain ⟨lane, here, told⟩ := owing
    simp only [erase] at here
    split at here
    · cases here
    · next apart => exact ⟨apart, lane, here, told⟩
  have erased : (roster.erase id).Register (fun other => gone other ∨ other = id) tokenOf holds
      dances requests := by
    refine ⟨?_, fun other level token owing => kept (register.calls other level token (before owing).2),
      fun other level third height token first second =>
        register.callee other level third height token (before first).2 (before second).2,
      fun token listed => kept (register.dance token listed),
      fun item listed => kept (register.request item listed), register.dancesOnce,
      register.requestsOnce, ?_⟩
    · intro other left level
      simp only [erase]
      split
      · rfl
      · next apart => exact register.absent other (left.resolve_right apart) level
    · intro other level lane reason here
      simp only [erase] at here
      split at here
      · cases here
      · exact register.all other level lane reason here
  refine erased.wakeAll fun token member => ?_
  obtain ⟨priority, owing⟩ := fired token member
  by_cases left : gone token.entity
  · exact .inl (.inl left)
  refine .inr ⟨fun other level again => ?_, register.not_listed owing left⟩
  obtain ⟨apart, earlier⟩ := before again
  exact apart (register.callee other level id priority token earlier owing).1

end Register

/-! ## Instructions -/

/-- A lane that has ended waits for nothing, whatever begins after it. -/
theorem Begins.rests {level script : Nat}
    (begins : (roster.finish id priority lane).Begins id level script after) :
    ∃ later, after.lane? id priority = some later ∧ later.pauseReason? = none := by
  cases begins with
  | refused => exact ⟨lane.finish, lane?_finish_self .., rfl⟩
  | @started entry free admits =>
      rw [lane?_put, lane?_finish_self]
      split
      · exact ⟨_, rfl, rfl⟩
      · exact ⟨_, rfl, rfl⟩

/-- Lanes are put in different places in any order. -/
theorem put_comm {other : EntityId} {level : Nat} (apart : ¬(id = other ∧ priority = level))
    (first second : Lane) :
    (roster.put id priority first).put other level second =
      (roster.put other level second).put id priority first := by
  ext place index found
  · simp only [lane?_put]
    by_cases here : place = id ∧ index = priority
    · obtain ⟨rfl, rfl⟩ := here
      simp [apart]
    · simp [here]
  · rfl
  · rfl

namespace Register

variable {Item : Type} {gone : EntityId → Prop} {tokenOf : Item → ResumeToken}
  {holds : Item → Lane → Prop} {dances : List ResumeToken} {requests : List Item}

/-- Whatever an instruction does, the register is kept, with the tokens that its lane waits with. -/
theorem turn (register : roster.Register gone tokenOf holds dances requests)
    (here : roster.lane? id priority = some lane) (active : lane.isActive) {source : Section}
    {jumps : Opcode → Prop} (turn : roster.Turn source jumps id priority lane after) {later : Lane}
    (there : after.lane? id priority = some later) {danced : List ResumeToken}
    {requested : List Item} (dancing : danced = later.dancing id priority)
    (asked : requested.map tokenOf = later.requesting id priority)
    (fits : ∀ item ∈ requested, holds item later) :
    after.Register gone tokenOf holds (dances ++ danced) (requests ++ requested) := by
  have busy := Lane.isBusy_of_isActive active
  have running : lane.pauseReason? = none := Lane.pauseReason?_of_isActive active
  -- a lane that does not wait has nothing registered
  have still (rests : later.pauseReason? = none)
      (kept : after.Register gone tokenOf holds dances requests) :
      after.Register gone tokenOf holds (dances ++ danced) (requests ++ requested) := by
    rw [Lane.dancing_of_running rests] at dancing
    rw [Lane.requesting_of_running rests] at asked
    rw [dancing, List.map_eq_nil_iff.mp asked, List.append_nil, List.append_nil]
    exact kept
  have placed {last : Lane} (same : later = last) (rests : last.pauseReason? = none)
      (owes : last.onStop? = none ∨ last.onStop? = lane.onStop?)
      (put : after.lane? = (roster.put id priority last).lane?) :
      after.Register gone tokenOf holds (dances ++ danced) (requests ++ requested) := by
    subst same
    refine still rests (.congr (register.put_running here running rests fun token told => ?_) put)
    rcases owes with nobody | kept
    · rw [nobody] at told
      cases told
    · exact .inl (kept ▸ told)
  cases turn with
  | @carry last carries =>
      rw [lane?_put_self] at there
      cases there
      cases carries with
      | pause passes awaited => exact register.pause here running _ _ dancing asked fits
      | advance => exact placed rfl rfl (.inr rfl) rfl
      | home => exact placed rfl rfl (.inr rfl) rfl
      | retry => exact placed rfl rfl (.inr rfl) rfl
      | suspend => exact placed rfl rfl (.inr rfl) rfl
      | linger => exact placed rfl rfl (.inr rfl) rfl
  | @call target level script entry next free admits goesOn =>
      rw [lane?_put_self] at there
      cases there
      have begun := register.start admits
      exact still rfl
        (begun.put_running (admits.lane?_put here busy _) running rfl fun token told => .inl told)
  | @await target level script entry next free admits passes =>
      rw [lane?_put_self] at there
      cases there
      have waits := register.pause here running next .call dancing asked fits
      have apart : ¬(target = id ∧ level = priority) :=
        fun same => admits.ne here busy ⟨same.1.symm, same.2.symm⟩
      have free : (roster.put id priority (lane.pause next .call)).lane? target level = some free :=
        (lane?_put_other _ apart).trans admits.here
      rw [put_comm apart]
      refine waits.put_running free (Lane.of_free admits.free).1 rfl ?_
      rintro token ⟨⟩
      refine .inr ⟨⟨_, _, lane?_put_self .., rfl, rfl, rfl⟩, fun other level owing => ?_⟩
      have earlier : roster.Owing other level (lane.token id priority) := by
        rcases owing.of_put with ⟨⟨rfl, rfl⟩, told⟩ | earlier
        · exact ⟨lane, here, told⟩
        · exact earlier
      exact register.not_expected here running (register.calls other level _ earlier)
  | stop =>
      rw [lane?_finish_self] at there
      cases there
      exact still rfl (register.finish here running)
  | handOver begins =>
      have ended := register.finish here running
      obtain ⟨last, found, rests⟩ := begins.rests
      rw [there] at found
      cases found
      exact still rests (ended.begins begins)
  | abort stands mainEntry =>
      rw [lane?_fault, lane?_put_self] at there
      cases there
      exact placed rfl rfl (.inl rfl) rfl

end Register

end Roster

end FieldMachine
