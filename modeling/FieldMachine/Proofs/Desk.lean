import FieldMachine.Console.Play
import FieldMachine.Proofs.Errand

/-!
# The desk of the console

The console answers every request after a while.  What it has to do with that is
its desk (`Machine.desk`): the open requests, its clock, and on the side of the
field the tokens of choreographies and those that were given back.

An instruction puts on the desk what its lane waits with (`Machine.step_opens`):
the token of a choreography, or a request with the frame in which it will be
answered and, if it is a question, with one of the lines that the question
offers.
-/

namespace FieldMachine

set_option autoImplicit false

open Console (Pending State Settings settingFor)

/-! ## The lines of a question -/

namespace Reading

variable {α β : Type} {scene : Scene} {cursor after : Cursor}

theorem bind_apply_eq_ok {reading : Reading α} {next : α → Reading β} {result : β × Cursor} :
    (reading >>= next) scene cursor = .ok result ↔
      ∃ value middle, reading scene cursor = .ok (value, middle) ∧
        next value scene middle = .ok result := by
  rw [bind_apply]
  cases reading scene cursor with
  | error error => simp [Except.bind]
  | ok found =>
      obtain ⟨value, middle⟩ := found
      constructor
      · intro worked
        exact ⟨value, middle, rfl, worked⟩
      · rintro ⟨_, _, ⟨⟩, worked⟩
        exact worked

theorem byte_apply_eq_ok {value : UInt8} : byte scene cursor = .ok (value, after) ↔
    cursor.code[cursor.pc]? = some value ∧ after = cursor.forward 1 := Cursor.byte_eq_ok

theorem forward_of_selectors {value : Selectors}
    (worked : selectors scene cursor = .ok (value, after)) : after = cursor.forward 1 := by
  obtain ⟨byte, middle, read, worked⟩ := bind_apply_eq_ok.mp worked
  obtain ⟨-, rfl⟩ := byte_apply_eq_ok.mp read
  cases worked
  rfl

end Reading

open Reading in
/-- The lines that a question offers stand among its operands. -/
theorem Dialogue.ask_offers {scene : Scene} {cursor after : Cursor} {plan : Plan}
    (worked : ask scene cursor = .ok (plan, after)) :
    ∃ first last dialog reason, cursor.code[cursor.pc + 3]? = some first ∧
      cursor.code[cursor.pc + 4]? = some last ∧ dialog.choices = some (first, last) ∧
      plan = .act [] (.request (.dialog dialog) reason) := by
  unfold ask at worked
  obtain ⟨selectors, middle, read, worked⟩ := bind_apply_eq_ok.mp worked
  obtain rfl := forward_of_selectors read
  obtain ⟨window, middle, read, worked⟩ := bind_apply_eq_ok.mp worked
  obtain ⟨-, rfl⟩ := byte_apply_eq_ok.mp read
  obtain ⟨text, middle, read, worked⟩ := bind_apply_eq_ok.mp worked
  obtain ⟨-, rfl⟩ := byte_apply_eq_ok.mp read
  obtain ⟨first, middle, read, worked⟩ := bind_apply_eq_ok.mp worked
  obtain ⟨firstHere, rfl⟩ := byte_apply_eq_ok.mp read
  obtain ⟨last, middle, read, worked⟩ := bind_apply_eq_ok.mp worked
  obtain ⟨lastHere, rfl⟩ := byte_apply_eq_ok.mp read
  obtain ⟨address, middle, read, worked⟩ := bind_apply_eq_ok.mp worked
  obtain ⟨here, rfl⟩ := byte_apply_eq_ok.mp read
  split at worked
  · cases worked
  · obtain ⟨dialog, middle, read, worked⟩ := bind_apply_eq_ok.mp worked
    obtain ⟨inside, -⟩ := Array.getElem?_eq_some_iff.mp here
    obtain ⟨-, -, -, asked⟩ := (dialogIn_takes _ _ _).result (by exact inside) read
    cases worked
    exact ⟨first, last, dialog, _, firstHere, lastHere, asked, rfl⟩

namespace Section

/-- Whether a lane can come to carry out what stands at a place. -/
def Executes (source : Section) (ip : Nat) : Prop :=
  ∃ (σ : Type) (setting : Setting σ) (machine : Machine σ) (id : EntityId) (priority : Nat)
    (lane : Lane), setting.source = source ∧ Machine.Arises setting machine ∧
      machine.world.lane? id priority = some lane ∧ lane.isActive ∧ lane.ip? = some ip

/-- Whether what stands at a place, if it is a question, offers a line at all. -/
def InOrderAt (source : Section) (ip : Nat) : Prop :=
  source.code[ip]? = some Opcode.ask.byte →
    ∀ first ∈ source.code[ip + 4]?, ∀ last ∈ source.code[ip + 5]?, first ≤ last

instance (source : Section) (ip : Nat) : Decidable (source.InOrderAt ip) :=
  inferInstanceAs (Decidable (source.code[ip]? = some Opcode.ask.byte →
    ∀ first ∈ source.code[ip + 4]?, ∀ last ∈ source.code[ip + 5]?, first ≤ last))

/-- Whether every question that can be asked offers a line at all. -/
def AsksInOrder (source : Section) : Prop :=
  ∀ ip, source.Executes ip → source.InOrderAt ip

/-- Whether what a lane is answered is, if it has asked a question, one of the lines that the question
offers. -/
def Offers (source : Section) (lane : Lane) (answer : Option UInt16) : Prop :=
  ∀ window bank address, lane.pauseReason? = some (.ask window bank address) →
    ∃ ip first last choice, lane.ip? = some (ip + Opcode.ask.size) ∧
      source.code[ip]? = some Opcode.ask.byte ∧ source.code[ip + 4]? = some first ∧
      source.code[ip + 5]? = some last ∧ answer = some choice ∧
      first.toUInt16 ≤ choice ∧ choice ≤ last.toUInt16

end Section

/-! ## What the console does with a request -/

namespace Console.State

/-- What the console answers to a request. -/
def answerTo (state : State) : Request → Option UInt16
  | .dialog shown => shown.choices.map fun lines => state.choose lines.1 lines.2
  | .battle _ => some 0
  | _ => none

/-- Unless a question offers no line, and with a delay, every request is put down to be answered. -/
theorem attend_eq {state : State} (delayed : state.answerDelay ≠ 0) (token : ResumeToken)
    {request : Request}
    (ordered : ∀ shown first last, request = .dialog shown → shown.choices = some (first, last) →
      first ≤ last) :
    state.attend token request =
      (.deferred, { state with
        pending := state.pending ++
          [{ due := state.frame + state.answerDelay, token, answer := state.answerTo request }] }) := by
  have deferred (answer : Option UInt16) : state.defer token answer =
      (.deferred, { state with
        pending := state.pending ++ [{ due := state.frame + state.answerDelay, token, answer }] }) :=
    if_neg delayed
  cases request with
  | dialog shown =>
      simp only [attend, answerTo]
      cases offered : shown.choices with
      | none => exact deferred none
      | some lines =>
          obtain ⟨first, last⟩ := lines
          have inOrder : ¬last < first :=
            UInt8.not_lt.mpr (ordered shown first last rfl offered)
          simp only [if_neg inOrder]
          exact deferred _
  | _ => exact deferred _

/-- The line that is chosen is one of those that are offered. -/
theorem choose_between (state : State) {first last : UInt8} (ordered : first ≤ last) :
    first.toUInt16 ≤ state.choose first last ∧ state.choose first last ≤ last.toUInt16 := by
  have wider : first.toUInt16 ≤ last.toUInt16 := by
    rw [UInt16.le_iff_toNat_le]
    simpa using UInt8.le_iff_toNat_le.mp ordered
  have greater (first second : UInt16) :
      max first second = if first ≤ second then second else first := rfl
  have smaller (first second : UInt16) :
      min first second = if first ≤ second then first else second := rfl
  unfold choose
  rw [greater, smaller]
  constructor <;> grind

end Console.State

/-! ## The desk -/

/-- What a machine of the console has to do with those who wait. -/
structure Desk extends Errands where
  answerDelay : UInt64
  frame : UInt64
  pending : List Pending
  stuck : Bool

/-- The desk of a machine. -/
def Machine.desk (machine : Machine State) : Desk :=
  { machine.world.errands with
    answerDelay := machine.host.answerDelay
    frame := machine.host.frame
    pending := machine.host.pending
    stuck := machine.host.stuck }

/-- What of the console lies on its desk. -/
def Console.State.duties (state : State) : UInt64 × UInt64 × List Pending × Bool :=
  (state.answerDelay, state.frame, state.pending, state.stuck)

theorem Console.conceals : Console.host.Conceals State.duties := by
  intro notice state
  cases notice <;> rfl

namespace Machine

/-- The desk shows the affairs of the machine. -/
theorem desk_of_affairs {after : Machine State} {errands : Errands} {host : State}
    (same : after.affairs State.duties = (errands, host.duties)) :
    after.desk = { errands with
      answerDelay := host.answerDelay
      frame := host.frame
      pending := host.pending
      stuck := host.stuck } := by
  obtain ⟨errands, duties⟩ := Prod.mk.inj same
  obtain ⟨delay, frame, pending, stuck⟩ : after.host.answerDelay = host.answerDelay ∧
      after.host.frame = host.frame ∧ after.host.pending = host.pending ∧
      after.host.stuck = host.stuck := by
    simpa [State.duties] using duties
  simp only [desk, errands, delay, frame, pending, stuck]

/-- What does not concern the affairs leaves the desk as it is. -/
theorem desk_of_same {machine after : Machine State}
    (same : after.affairs State.duties = machine.affairs State.duties) :
    after.desk = machine.desk :=
  desk_of_affairs same

/-- A lane has carried out an instruction, and what it waits with now was put on the desk. -/
def Opens (source : Section) (id : EntityId) (priority : Nat) (machine after : Machine State) :
    Prop :=
  ∃ later danced requested, after.world.lane? id priority = some later ∧
    danced = later.dancing id priority ∧
    requested.map Pending.token = later.requesting id priority ∧
    (∀ pending ∈ requested, pending.due = machine.desk.frame + machine.desk.answerDelay ∧
      source.Offers later pending.answer) ∧
    after.desk = { machine.desk with
      queued := machine.desk.queued ++ danced
      pending := machine.desk.pending ++ requested }

end Machine

/-- An instruction that asks with lines to choose from is a question, and these are its lines. -/
theorem Scene.lines_of_workOut {scene : Scene} {ip next : Nat} {effects : List Effect}
    {shown : Dialog} {reason : PauseReason} {first last : UInt8}
    (worked : Machine.workOut scene.source.code scene ip scene.lane.suspended? =
      .ok (.act effects (.request (.dialog shown) reason), next))
    (stands : scene.lane.ip? = some ip) (offered : shown.choices = some (first, last)) :
    next = ip + Opcode.ask.size ∧ scene.source.code[ip]? = some Opcode.ask.byte ∧
      scene.source.code[ip + 4]? = some first ∧ scene.source.code[ip + 5]? = some last := by
  cases (comesTo_of_workOut worked).fits stands with
  | plain plain =>
      obtain ⟨-, fresh, op, byte, asks⟩ := plain
      rw [fresh] at worked
      obtain ⟨found, reading, cursor, after, fetched, read, rfl⟩ :=
        Machine.workOut_none_eq_ok.mp worked
      obtain ⟨there, planned, rfl⟩ := Machine.fetch_eq_ok.mp fetched
      obtain ⟨named, rfl, known⟩ := planOfByte?_eq_some.mp planned
      rw [byte] at there
      cases Opcode.byte_injective (Option.some.inj there)
      cases asks with
      | message dialog told =>
          rw [told] at offered
          cases offered
      | ask dialog address asked named =>
          cases known
          obtain ⟨inside, -⟩ := Array.getElem?_eq_some_iff.mp byte
          have behind : ((Cursor.atStart scene.source.code ip).forward 1).pc ≤
              scene.source.code.size := inside
          obtain ⟨rfl, -⟩ := Dialogue.ask_takes.result behind read
          obtain ⟨first, last, dialog, reason, firstHere, lastHere, lines, same⟩ :=
            Dialogue.ask_offers read
          cases same
          rw [offered] at lines
          cases lines
          have size : Opcode.ask.size = 7 := by decide +kernel
          exact ⟨size ▸ rfl, byte, firstHere, lastHere⟩

namespace Machine

variable {settings : Settings} {source : Section} {machine : Machine State} {id : EntityId}
  {priority : Nat} {lane : Lane}

/-- One step of an active lane puts on the desk what the lane waits with then. -/
theorem step_opens (arises : Arises (settingFor settings source) machine)
    (ordered : source.AsksInOrder) (delayed : machine.desk.answerDelay ≠ 0)
    (here : machine.world.lane? id priority = some lane) (active : lane.isActive) :
    Opens source id priority machine
      (machine.step (settingFor settings source) id priority).1 := by
  have conceals : (settingFor settings source).host.Conceals State.duties := Console.conceals
  obtain ⟨later, there, leaves⟩ := step_leaves conceals here active
  cases leaves with
  | quiet unasked left =>
      refine ⟨later, _, [], there, rfl, unasked.symm, by simp, ?_⟩
      rw [List.append_nil]
      exact desk_of_affairs left
  | @request request reason next asked allowed made =>
      obtain ⟨ip, effects, stands, worked⟩ := allowed
      obtain ⟨op, asks⟩ := made.asks
      have lines (shown : Dialog) (first last : UInt8) (dialog : request = .dialog shown)
          (offered : shown.choices = some (first, last)) :
          first ≤ last ∧ next = ip + Opcode.ask.size ∧ source.code[ip]? = some Opcode.ask.byte ∧
            source.code[ip + 4]? = some first ∧ source.code[ip + 5]? = some last := by
        subst dialog
        obtain ⟨behind, byte, firstHere, lastHere⟩ :=
          @Scene.lines_of_workOut (machine.sceneOf (settingFor settings source) id priority ip lane)
            ip next effects shown reason first last worked stands offered
        have executes : source.Executes ip :=
          ⟨State, settingFor settings source, machine, id, priority, lane, rfl, arises, here, active,
            stands⟩
        exact ⟨ordered ip executes byte first firstHere last lastHere, behind, byte, firstHere,
          lastHere⟩
      obtain ⟨delay, frame, pending, stuck⟩ : asked.answerDelay = machine.host.answerDelay ∧
          asked.frame = machine.host.frame ∧ asked.pending = machine.host.pending ∧
          asked.stuck = machine.host.stuck := by
        simpa [State.duties] using made.before
      let token := lane.token id priority
      let filed : Pending :=
        { due := asked.frame + asked.answerDelay, token, answer := asked.answerTo request }
      -- with a delay the request is left open
      have answered := asked.attend_eq (delay ▸ delayed) token fun shown first last dialog offered =>
        (lines shown first last dialog offered).1
      have host : (settingFor settings source).host.request request token asked =
          (.deferred, { asked with pending := asked.pending ++ [filed] },
            [Console.requestLine request]) := by
        simp only [settingFor, Console.host, answered, filed]
      have waits := made.goesOn
      have left := made.host
      rw [host] at waits left
      subst waits
      have undanced : (lane.pause next reason).dancing id priority = [] := by
        refine if_neg ?_
        rintro ⟨⟩
        cases asks
      have served : (lane.pause next reason).requesting id priority = [token] :=
        if_pos asks.isServed
      have offers : source.Offers (lane.pause next reason) (asked.answerTo request) := by
        rintro window bank address ⟨⟩
        cases asks with
        | ask dialog address choices named =>
            obtain ⟨⟨first, last⟩, offered⟩ := Option.isSome_iff_exists.mp choices
            obtain ⟨inOrder, behind, byte, firstHere, lastHere⟩ := lines _ _ _ rfl offered
            obtain ⟨above, below⟩ := asked.choose_between inOrder
            exact ⟨ip, first, last, _, congrArg some behind, byte, firstHere, lastHere,
              congrArg (Option.map _) offered, above, below⟩
      have due : filed.due = machine.desk.frame + machine.desk.answerDelay := by
        simp only [filed, desk, frame, delay]
      refine ⟨_, [], [filed], there, undanced.symm, served.symm,
        List.forall_mem_singleton.mpr ⟨due, offers⟩, ?_⟩
      refine (desk_of_affairs (Prod.ext made.errands left)).trans ?_
      simp only [desk, World.errands, delay, frame, pending, stuck, List.append_nil]

end Machine

end FieldMachine
