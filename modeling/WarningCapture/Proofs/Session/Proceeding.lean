import WarningCapture.Proofs.Session.Deeds

/-! Everything that a session performs comes to deeds: the story of each operation tells them. -/
namespace WarningCapture

/-- Calling a listener comes to deeds. -/
def Reaction.Proceeds (Tags : Option String → Prop) (react : Reaction) : Prop :=
  ∀ name r s, Session.Proceeds Tags s (react name r s).2

theorem Event.incidental_telling {e : Event} (incidental : e.incidental = true) :
    e.telling = true := by
  cases e <;> first | rfl | cases incidental

namespace Session
variable {Tags : Option String → Prop} {b : Bounds} {react : Reaction} {scene : Scene}
  {s t : Session} {owed : List (String × Record)} {answer : Option Answer}

namespace Proceeds

theorem refl (s : Session) : Proceeds Tags s s :=
  .deed (.arrange s s.modules s.types s.cwd s.read s.guards s.calls)

theorem noteAll (s : Session) (ns : List Log.Notice) : Proceeds Tags s (s.noteAll ns) := by
  induction ns generalizing s with
  | nil => exact .refl s
  | cons n rest ih => exact (Proceeds.deed (.note s n)).trans (ih _)

theorem moved {s : Session} {m : Sinks.Move} {notices : List Log.Notice}
    (deed : Deed Tags s (s.moved [m])) : Proceeds Tags s ((s.moved [m]).noteAll notices) :=
  (Proceeds.deed deed).trans (.noteAll _ _)

theorem pushNew (collector : Collector) {outcome : Except CaptureError Nat}
    (pushed : (s.newObserver collector).2.pushSink (s.newObserver collector).1 = (outcome, t)) :
    Proceeds Tags s t := by
  rw [← show _ = t from congrArg Prod.snd pushed]
  exact (Proceeds.deed (.pushNew s collector)).trans (.noteAll _ _)

theorem releaseSink (s : Session) (token : Nat) (elsewhere : Bool) :
    Proceeds Tags s (s.releaseSink token elsewhere).2 :=
  .moved (.takeOff s (show (Sinks.Move.release token elsewhere).TakesOff token from rfl))

theorem dropSink (s : Session) (token : Nat) : Proceeds Tags s (s.dropSink token) :=
  .moved (.takeOff s (show (Sinks.Move.drop token).TakesOff token from rfl))

end Proceeds

theorem Handles.proceeds (handles : s.Handles t) : Proceeds Tags s t := by
  induction handles with
  | refl s => exact .refl s
  | trans _ _ first second => exact first.trans second
  | push s name => exact .moved (.pushNamed s name)
  | release s token elsewhere => exact .releaseSink s token elsewhere
  | drop s token => exact .dropSink s token
  | set s guard held =>
    exact .deed (.arrange s s.modules s.types s.cwd s.read (Table.put guard held s.guards) s.calls)

/-- An operation comes to deeds if what happens inside it does. -/
theorem Story.proceeds (inner : ∀ {s t}, b.inside s t → Proceeds b.tags s t)
    (story : Story b s owed answer t) : Proceeds b.tags s t := by
  induction story with
  | trans _ _ first second => exact first.trans second
  | arrange s modules types cwd read calls =>
    exact .deed (.arrange s modules types cwd read s.guards calls)
  | nameObserver s name collector => exact .deed (.nameObserver s name collector)
  | tag s given => exact .deed (.tag s given)
  | applyPolicy s disk => exact .deed (.applyPolicy s disk _)
  | note s n => exact .deed (.note s n)
  | tell s incidental => exact .deed (.tell s (Event.incidental_telling incidental))
  | report s err => exact .deed (.report s err)
  | again s | pass s => exact .refl s
  | write s _ hook => exact .deed (.write s hook)
  | guard _ _ handles => exact handles.proceeds
  | guardFailed _ _ handles => exact handles.proceeds.trans (.deed (.report _ _))
  | store s buffer r => exact .deed (.store s buffer r)
  | dismiss s r collector busy => exact .deed (.dismiss s r collector busy)
  | call reaches collector idle called => exact .call reaches collector idle (inner called)
  | place s buffer r => exact .deed (.place s buffer r)
  | flush s buffer claimed =>
    exact (Proceeds.deed (.takeOut s buffer claimed)).trans (.deed (.note _ _))
  | touch s buffer => exact .deed (.touch s buffer)
  | discard s buffer => exact .deed (.sweep s buffer)
  | replay _ _ _ inside =>
    exact (Proceeds.deed (.sweep _ _)).trans (inside.trans (.deed (.tell _ rfl)))
  | hand _ _ emitted rest =>
    exact (Proceeds.deed (.tell _ rfl)).trans (emitted.trans rest)
  | refuse refused => exact .pushNew _ refused
  | capture installed called =>
    exact (Proceeds.pushNew _ installed).trans ((inner called).trans (.releaseSink _ _ _))
  | run _ inside => exact .run inside

end Session

/-- Deeds that set the given test ids. -/
def Bounds.deeds (Tags : Option String → Prop) : Bounds where
  remembers := Session.remembers_anything
  tags := Tags
  inside := Session.Proceeds Tags

theorem Bounds.deeds_closed (Tags : Option String → Prop) : (Bounds.deeds Tags).Closed where
  trans := .trans
  operation story := story.proceeds id
  close step outcome story := (story.proceeds id).trans (.deed (.close _ step outcome))

theorem Step.TagsWithin.within {Tags : Option String → Prop} {step : Step}
    (tags : step.TagsWithin Tags) : step.Within (.deeds Tags) where
  writes := step.writesWithin_anything
  tags := tags
  hands := step.handsIn_anything
  sets := step.setsWithin_anything
  guards _ := trivial

theorem Reaction.Proceeds.conveys {Tags : Option String → Prop} {react : Reaction}
    (proceeds : react.Proceeds Tags) : react.Conveys (fun _ => True) (Session.Proceeds Tags) :=
  fun name r s => ⟨proceeds name r s, fun f _ => f.given_anything⟩

namespace Session
variable {Tags : Option String → Prop} {react : Reaction} {scene : Scene}

theorem opened_proceeds (s : Session) (collector : Collector) :
    Proceeds Tags s (s.opened collector).2 := by
  have scrubbed : Proceeds Tags s s.scrubBeforeCapture :=
    (s.scrubBeforeCapture_story (b := .deeds Tags)).proceeds id
  exact scrubbed.trans (.pushNew collector rfl)

theorem configure_proceeds (disk : String → Log.Opening) (s : Session) (u : Policy.Update) :
    Proceeds Tags s (s.configure disk u).2 :=
  (s.configure_story (b := .deeds Tags) disk (Step.configure u).setsWithin_anything).proceeds id

theorem performAll_proceeds (proceeds : react.Proceeds Tags) (steps : List Step)
    (tags : AllThroughout (Step.TagsWithin Tags) steps) (s : Session) :
    Proceeds Tags s (performAll scene react steps s) :=
  performAll_inside (Bounds.deeds_closed Tags) proceeds.conveys steps
    (allThroughout_of_imp (fun _ tags => tags.within) tags) s

/-- Listeners that call one another do deeds, however deep the calls are nested. -/
theorem reaction_proceeds (tags : scene.Throughout (Step.TagsWithin Tags)) (depth : Nat) :
    (scene.reaction depth).Proceeds Tags := by
  have within : scene.Within (.deeds Tags) :=
    ⟨fun name => allThroughout_of_imp (fun _ tags => tags.within) (tags name),
      fun _ f _ => f.given_anything⟩
  exact fun name r s => (reaction_conveys (Bounds.deeds_closed Tags) within depth name r s).comes

/-- A session that sets no test ids but given ones, nor has its listeners set others, does deeds. -/
theorem play_proceeds (scene : Scene) (quiet : scene.Throughout (Step.TagsWithin Tags))
    (steps : List Step) (tags : AllThroughout (Step.TagsWithin Tags) steps) (s : Session) :
    Proceeds Tags s (scene.play steps s) :=
  performAll_proceeds (reaction_proceeds quiet _) steps tags s

end Session
end WarningCapture
