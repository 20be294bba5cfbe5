import FieldMachine.Host

/-!
# A scripted host

A host for rehearsals: it answers requests from a list of replies for each kind,
looks up the walkmesh in a list of rectangles, and keeps a record of everything
that it was told and asked, with all the tokens it was given.
-/

namespace FieldMachine

set_option autoImplicit false

/-- A rectangle of the ground that belongs to one triangle; its bounds belong to it. -/
structure Patch where
  triangle : UInt16
  left : Int32
  top : Int32
  right : Int32
  bottom : Int32
  height : Option Int32
deriving DecidableEq

/-- Whether a point lies in a patch. -/
def Patch.contains (patch : Patch) (x y : Int32) : Bool :=
  patch.left ≤ x && x ≤ patch.right && patch.top ≤ y && y ≤ patch.bottom

/-- The triangle at a point: the hinted one if the point lies in it, and otherwise the first one in
which it lies. -/
def Patch.triangleAt (patches : List Patch) (x y : Int32) (hint : UInt16) : Option UInt16 :=
  let around := patches.filter (·.contains x y)
  if around.any (·.triangle = hint) then some hint else around.head?.map Patch.triangle

/-- The height of a triangle. -/
def Patch.heightOf (patches : List Patch) (triangle : UInt16) : Option Int32 :=
  (patches.find? (·.triangle = triangle)).bind Patch.height

/-- The kinds of requests that replies are kept for. -/
inductive RequestKind
  | message
  | ask
  | menu
  | movie
  | battle
  | minigame
  | tutorial
  | disc
deriving DecidableEq

/-- All kinds. -/
def RequestKind.all : List RequestKind :=
  [.message, .ask, .menu, .movie, .battle, .minigame, .tutorial, .disc]

/-- The name of a kind. -/
def RequestKind.name : RequestKind → String
  | .message => "message"
  | .ask => "ask"
  | .menu => "menu"
  | .movie => "movie"
  | .battle => "battle"
  | .minigame => "minigame"
  | .tutorial => "tutorial"
  | .disc => "disc"

/-- The kind of a request; a dialog with choices is a question. -/
def Request.kind : Request → RequestKind
  | .dialog asked => if asked.choices.isSome then .ask else .message
  | .menu .. => .menu
  | .movie _ => .movie
  | .battle _ => .battle
  | .minigame _ => .minigame
  | .tutorial _ => .tutorial
  | .disc _ => .disc

/-- Something that a host was told or asked. -/
inductive Contact
  | told (notice : Notice)
  | asked (request : Request) (token : ResumeToken)
deriving DecidableEq

/-- The state of a scripted host. -/
structure Rehearsal where
  /-- The replies to each kind of requests, the next one first; the last one is used again and
  again. -/
  replies : List (RequestKind × List Completion) := []
  /-- The ground; without it every hint is right. -/
  ground : Option (List Patch) := none
  /-- The last frames of animations, by model and animation. -/
  lastFrames : List (Option UInt8 × UInt8 × UInt16) := []
  movieFrame : UInt16 := 0
  musicPlaying : Bool := false
  buttons : Buttons := 0
  /-- The tokens given so far, in order. -/
  tokens : Array ResumeToken := #[]
  /-- What the host was told and asked, the latest first. -/
  record : List Contact := []

namespace Rehearsal

/-- What can be looked up. -/
def senses (rehearsal : Rehearsal) : Senses :=
  { movieFrame := rehearsal.movieFrame
    musicPlaying := rehearsal.musicPlaying
    buttons := rehearsal.buttons
    triangleAt := fun x y hint =>
      match rehearsal.ground with
      | none => some hint
      | some patches => Patch.triangleAt patches x y hint
    heightAt := fun triangle _ _ => rehearsal.ground.bind (Patch.heightOf · triangle)
    lastFrame := fun model animation =>
      match rehearsal.lastFrames.find? fun entry => entry.1 = model && entry.2.1 = animation with
      | some (_, _, last) => last
      | none => 15 }

/-- The next reply to a request. -/
def reply (rehearsal : Rehearsal) (request : Request) : Completion :=
  ((rehearsal.replies.lookup request.kind).bind List.head?).getD request.unattended

/-- What is left of some replies after the next one. -/
def afterNext : List Completion → List Completion
  | _ :: next :: rest => next :: rest
  | replies => replies

/-- The replies that are left after the next one of a kind. -/
def useReply (replies : List (RequestKind × List Completion)) (kind : RequestKind) :
    List (RequestKind × List Completion) :=
  replies.map fun (other, left) => (other, if other = kind then afterNext left else left)

end Rehearsal

/-- The host that acts as a rehearsal says and records everything. -/
def Host.scripted : Host Rehearsal where
  senses := Rehearsal.senses
  request request token rehearsal :=
    (rehearsal.reply request,
      { rehearsal with
        replies := Rehearsal.useReply rehearsal.replies request.kind
        tokens := rehearsal.tokens.push token
        record := .asked request token :: rehearsal.record }, [])
  notify notice rehearsal := ({ rehearsal with record := .told notice :: rehearsal.record }, [])

end FieldMachine
