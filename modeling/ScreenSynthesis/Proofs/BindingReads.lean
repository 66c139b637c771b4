import ScreenSynthesis.Execution
import ScreenSynthesis.Proofs.BindingExactness
import ScreenSynthesis.Proofs.LayoutBinding

/-!
# The binding of a controller is made once

A controller makes its binding when it is read for the first time, and keeps it. Here a host has a
controller and watches it: binders are registered, views are attached, arguments are put, and the
binding is read, with a binder that is passed or as the member of the controller's owner. The host
takes down every run of a binder, and tells the objects that binders make by the numbers of their
runs, so that two reads can be said to give back not just equal bindings but the same one.

## Key results

- `Controller.bindOnce_eq_bindBy`, `Host.result_eq`: the reads that a host watches are those of
  controllers and executors
- `Host.kept_afterAll`: what is kept is kept for good, and no binder is run again
- `Host.binding_read_once`: what a read gives back after any events
-/

namespace ScreenSynthesis

/-- A run of a binder against a root view. -/
structure BinderRun where
  binder : LayoutBinder
  root : View

/-- A binding as an object, known by the number of the binder run that has made it. -/
structure BoundObject where
  number : Nat
  view : BoundView

namespace Controller

/-- The steps of a read, for bindings of any kind and for binders that have effects: what is kept is
handed out, and otherwise the root view is asked for and a binder is run. -/
def bindBy {m : Type → Type} [Monad m] [MonadLiftT (Except MemberFault) m] {β : Type}
    (c : Controller) (kept : Option β) (run : View → m β) : m β :=
  match kept with
  | some bound => pure bound
  | none => do
    let root ← c.requireRootView
    run root

/-- `bindOnce` reads a binding in the steps of `bindBy`, for binders without effects. -/
theorem bindOnce_eq_bindBy (c : Controller) (b : LayoutBinder) :
    c.bindOnce b =
      (c.bindBy c.binding b.bind).map fun bound => (bound, { c with binding := some bound }) := by
  obtain ⟨className, arguments, rootView, binding⟩ := c
  -- only a controller with a root view and without a binding runs the binder
  cases binding with
  | some bound => rfl
  | none =>
    cases rootView with
    | none => rfl
    | some root =>
      show (b.bind root).bind _ = (b.bind root).map _
      cases b.bind root <;> rfl

end Controller

namespace LayoutBinder

/-- Runs a binder and takes the run down. The object that it makes gets the number of the run. -/
def watched (b : LayoutBinder) (root : View) :
    ExceptT MemberFault (StateM (List BinderRun)) BoundObject := do
  let runs ← get
  set (runs ++ [{ binder := b, root }])
  let view ← b.bind root
  return { number := runs.length, view }

/-- A `watched` run is taken down whether or not it makes an object. -/
private theorem run_watched (b : LayoutBinder) (root : View) (runs : List BinderRun) :
    (b.watched root).run.run runs =
      ((b.bind root).map fun view => { number := runs.length, view },
        runs ++ [{ binder := b, root }]) := by
  unfold watched
  cases b.bind root <;> rfl

end LayoutBinder

/-- A way to read a binding: with a binder that is passed, or as the member of the owner. -/
inductive BindingRead where
  | passed (b : LayoutBinder)
  | member

/-- What may happen on a host. -/
inductive HostEvent where
  | attachView (root : View)
  | putArgument (key : String) (p : Parcel)
  | register (b : LayoutBinder)
  | read (r : BindingRead)

namespace HostEvent

/-- The root view that an event attaches. -/
def root? : HostEvent → Option View
  | .attachView root => some root
  | _ => none

/-- The binder that an event registers for a binding type. -/
def binder? (type : String) : HostEvent → Option LayoutBinder
  | .register b => if b.bindingType = type then some b else none
  | _ => none

/-- What `f` gives for the last of the events for which it gives something. -/
def lastOf {α : Type} (f : HostEvent → Option α) (events : List HostEvent) : Option α :=
  (events.filterMap f).getLast?

/-- `lastOf` prefers what the later events give. -/
private theorem lastOf_append {α : Type} (f : HostEvent → Option α) (events more : List HostEvent) :
    lastOf f (events ++ more) = (lastOf f more).or (lastOf f events) := by
  rw [lastOf, List.filterMap_append, List.getLast?_append]
  rfl

/-- `lastOf` a single event is what `f` gives for it. -/
private theorem lastOf_singleton {α : Type} (f : HostEvent → Option α) (e : HostEvent) :
    lastOf f [e] = f e := by
  cases hfe : f e <;> simp [lastOf, hfe]

/-- `binder?` finds binders of its own type only. -/
private theorem bindingType_of_lastOf {type : String} {events : List HostEvent} {b : LayoutBinder}
    (h : lastOf (binder? type) events = some b) : b.bindingType = type := by
  obtain ⟨e, -, he⟩ := List.mem_filterMap.1 (List.mem_of_getLast? h)
  cases e with
  | register b' =>
    obtain ⟨htype, heq⟩ := Option.ite_none_right_eq_some.1 he
    rw [← Option.some.inj heq, htype]
  | _ => exact nomatch he

end HostEvent

/-- A host with a controller of some owner, and the binders that are registered. -/
structure Host where
  session : Session
  owner : QualifiedName
  binders : BinderRegistry
  controller : Controller
  /-- The number of the binder run that has made the controller's binding. -/
  number : Nat
  /-- The binder runs for the controller, the latest last. -/
  runs : List BinderRun

namespace Host

/-- A host that has opened a screen: there are no binders yet, and nothing is bound. -/
def opening (s : Session) (owner : QualifiedName) (d : NavigationDescriptor) : Host where
  session := s
  owner := owner
  binders := {}
  controller := d.create
  number := 0
  runs := []

/-- The binder that a read uses, where binders are registered under the names of their types. -/
def binderOf (s : Session) (owner : QualifiedName) (registered : String → Option LayoutBinder) :
    BindingRead → Except SynthesisError LayoutBinder
  | .passed b => .ok b
  | .member =>
    match (Executor.mk s {}).body owner .owner bindingName with
    | .ok (.lazyBind type) =>
      match registered type.text with
      | some b => .ok b
      | none => .error (.fault (.unknownBinder type.text))
    | .ok _ => .error (.memberNotSynthesized owner bindingName)
    | .error e => .error e

variable (h : Host)

/-- The `binding` of the controller as an object. -/
def object : Option BoundObject := h.controller.binding.map fun view => { number := h.number, view }

/-- What a binder comes to on the controller, and the runs taken down by then. -/
def bindWith (b : LayoutBinder) : Except MemberFault BoundObject × List BinderRun :=
  (h.controller.bindBy h.object b.watched).run.run h.runs

/-- The host with what a binder came to: an object is kept as the controller's `binding`. -/
def keep :
    Except MemberFault BoundObject × List BinderRun → Except SynthesisError BoundObject × Host
  | (.error fault, runs) => (.error (.fault fault), { h with runs })
  | (.ok object, runs) =>
    let controller := { h.controller with binding := some object.view }
    (.ok object, { h with controller, number := object.number, runs })

/-- The binder that a read uses. -/
def choose (r : BindingRead) : Except SynthesisError LayoutBinder :=
  binderOf h.session h.owner h.binders.binders.get? r

/-- Reads the binding, and keeps the object that is given back. -/
def read (r : BindingRead) : Except SynthesisError BoundObject × Host :=
  match h.choose r with
  | .error e => (.error e, h)
  | .ok b => h.keep (h.bindWith b)

/-- The host after an event. -/
def after : HostEvent → Host
  | .attachView root => { h with controller := h.controller.attachView root }
  | .putArgument key p => { h with controller := (h.controller.putArgument key p).2 }
  | .register b => { h with binders := h.binders.register b }
  | .read r => (h.read r).2

/-- The host after some events. -/
def afterAll (events : List HostEvent) : Host := events.foldl after h

/-- What a controller or an executor gives back for a read, and the controller afterwards. -/
def result : BindingRead → Except SynthesisError (BoundView × Controller)
  | .passed b => (h.controller.bindOnce b).mapError .fault
  | .member => (Executor.mk h.session h.binders).readBinding h.owner h.controller

variable {h}

/-! ## One read -/

section

variable {b : LayoutBinder}

/-- `bindWith` runs no binder if something is kept. -/
private theorem bindWith_of_object {object : BoundObject} (hkept : h.object = some object) :
    h.bindWith b = (.ok object, h.runs) := by
  rw [bindWith, hkept]
  rfl

/-- `bindWith` runs no binder without a root view. -/
private theorem bindWith_of_rootView_eq_none (hnone : h.object = none)
    (hroot : h.controller.rootView = none) :
    h.bindWith b = (.error (.noRootView h.controller.className), h.runs) := by
  rw [bindWith, hnone, Controller.bindBy, Controller.requireRootView, hroot]
  rfl

/-- `bindWith` runs the binder on the root view if nothing is kept. -/
private theorem bindWith_of_rootView {root : View} (hnone : h.object = none)
    (hroot : h.controller.rootView = some root) :
    h.bindWith b = ((b.bind root).map fun view => { number := h.runs.length, view },
      h.runs ++ [{ binder := b, root }]) := by
  rw [← b.run_watched root h.runs, bindWith, hnone, Controller.bindBy, Controller.requireRootView,
    hroot]
  rfl

/-- A `read` without a binder changes nothing. -/
private theorem read_of_error {r : BindingRead} {e : SynthesisError}
    (hchoose : h.choose r = .error e) :
    h.read r = (.error e, h) := by
  rw [read, hchoose]

/-- A `read` keeps what `bindWith` gives for the chosen binder. -/
private theorem read_of_ok {r : BindingRead} (hchoose : h.choose r = .ok b) :
    h.read r = h.keep (h.bindWith b) := by
  rw [read, hchoose]

end

/-- A `read` hands out what is kept, and changes nothing. -/
private theorem read_of_object {object : BoundObject} (hkept : h.object = some object)
    (r : BindingRead) :
    h.read r = ((h.choose r).map fun _ => object, h) := by
  cases hchoose : h.choose r with
  | error e => exact read_of_error hchoose
  | ok b =>
    rw [read_of_ok hchoose, bindWith_of_object hkept]
    obtain ⟨view, hview, rfl⟩ := Option.map_eq_some_iff.1 hkept
    simp only [keep, Except.map, ← hview]

/-- A `read` as long as nothing is kept: there is no binder to be used or no root view, or the
binder is run and fails, or it makes the object that is kept from then on. -/
private theorem read_cases (hnone : h.object = none) (r : BindingRead) :
    (∃ e, h.read r = (.error e, h) ∧
      (h.choose r = .error e ∨ ∃ b, h.choose r = .ok b ∧ h.controller.rootView = none ∧
        e = .fault (.noRootView h.controller.className))) ∨
    ∃ b root, h.choose r = .ok b ∧ h.controller.rootView = some root ∧
      ((∃ fault, b.bind root = .error fault ∧
        h.read r = (.error (.fault fault), { h with runs := h.runs ++ [⟨b, root⟩] })) ∨
      ∃ view, b.bind root = .ok view ∧
        h.read r = h.keep (.ok ⟨h.runs.length, view⟩, h.runs ++ [⟨b, root⟩])) := by
  cases hchoose : h.choose r with
  | error e => exact Or.inl ⟨e, read_of_error hchoose, Or.inl rfl⟩
  | ok b =>
    rw [read_of_ok hchoose]
    -- with a binder, the root view is asked for next
    cases hroot : h.controller.rootView with
    | none =>
      rw [bindWith_of_rootView_eq_none hnone hroot]
      exact Or.inl ⟨_, rfl, Or.inr ⟨b, rfl, rfl, rfl⟩⟩
    | some root =>
      rw [bindWith_of_rootView hnone hroot]
      refine Or.inr ⟨b, root, rfl, rfl, ?_⟩
      cases hbind : b.bind root with
      | error fault => exact Or.inl ⟨fault, rfl, rfl⟩
      | ok view => exact Or.inr ⟨view, rfl, rfl⟩

/-! ## The reads of controllers and executors -/

/-- `result` looks for the binder first, and then reads like the controller with this binder. -/
theorem result_eq (r : BindingRead) :
    h.result r = h.choose r >>= fun b => (h.controller.bindOnce b).mapError .fault := by
  cases r with
  | passed b => rfl
  | member =>
    -- the registered binders play no part in the body of the member
    have hbody : (Executor.mk h.session h.binders).body = (Executor.mk h.session {}).body := rfl
    unfold result Executor.readBinding choose binderOf
    rw [hbody]
    cases (Executor.mk h.session {}).body h.owner .owner bindingName with
    | error e => rfl
    | ok body =>
      cases body with
      | lazyBind type =>
        cases hget : h.binders.binders.get? type.text with
        | none => simp only [BinderRegistry.get, hget, bind, Except.bind]; rfl
        | some b =>
          simp only [BinderRegistry.get, hget, bind, Except.bind]
          cases h.controller.bindOnce b <;> rfl
      | _ => rfl

/-- `bindWith` makes the view that `bindBy` makes without numbers. -/
private theorem map_view_bindWith (b : LayoutBinder) :
    (h.bindWith b).1.map BoundObject.view = h.controller.bindBy h.controller.binding b.bind := by
  cases hobject : h.object with
  | some object =>
    obtain ⟨view, hview, rfl⟩ := Option.map_eq_some_iff.1 hobject
    rw [bindWith_of_object hobject, hview]
    rfl
  | none =>
    rw [Option.map_eq_none_iff.1 hobject, Controller.bindBy, Controller.requireRootView]
    cases hroot : h.controller.rootView with
    | none =>
      rw [bindWith_of_rootView_eq_none hobject hroot]
      rfl
    | some root =>
      rw [bindWith_of_rootView hobject hroot]
      show ((b.bind root).map _).map _ = b.bind root
      cases b.bind root <;> rfl

/-- `read` gives back what the controller or the executor does, apart from the number, and leaves
the same controller behind. -/
private theorem result_eq_read (r : BindingRead) :
    h.result r = (h.read r).1.map fun object => (object.view, (h.read r).2.controller) := by
  rw [result_eq]
  cases hchoose : h.choose r with
  | error e =>
    rw [read_of_error hchoose]
    rfl
  | ok b =>
    show (h.controller.bindOnce b).mapError SynthesisError.fault = _
    rw [read_of_ok hchoose, Controller.bindOnce_eq_bindBy, ← map_view_bindWith]
    rcases h.bindWith b with ⟨fault | object, runs⟩ <;> rfl

/-- A `read` that fails leaves the controller as it was. -/
private theorem controller_of_read_eq_error {r : BindingRead} {e : SynthesisError}
    (herror : (h.read r).1 = .error e) : (h.read r).2.controller = h.controller := by
  cases hchoose : h.choose r with
  | error e' => rw [read_of_error hchoose]
  | ok b =>
    rw [read_of_ok hchoose] at herror ⊢
    -- a fault changes the runs only, and an object is no failure
    rcases hbind : h.bindWith b with ⟨fault | object, runs⟩
    · rfl
    · rw [hbind] at herror
      exact nomatch herror

/-- A `read` that gives something back has got a binder from `choose`. -/
private theorem exists_choose_of_read_eq_ok {r : BindingRead} {object : BoundObject}
    (hok : (h.read r).1 = .ok object) : ∃ b, h.choose r = .ok b := by
  cases hchoose : h.choose r with
  | error e =>
    rw [read_of_error hchoose] at hok
    exact nomatch hok
  | ok b => exact ⟨b, rfl⟩

/-- What a `read` gives back is the `object` from then on. -/
private theorem object_of_read_eq_ok {r : BindingRead} {object : BoundObject}
    (hok : (h.read r).1 = .ok object) : (h.read r).2.object = some object := by
  obtain ⟨b, hchoose⟩ := exists_choose_of_read_eq_ok hok
  rw [read_of_ok hchoose] at hok ⊢
  rcases hbind : h.bindWith b with ⟨fault | object', runs⟩
  · rw [hbind] at hok
    exact nomatch hok
  · rw [hbind] at hok
    obtain rfl := Except.ok.inj hok
    rfl

/-! ## Runs -/

/-- One event leaves a kept `object` as it is, and runs no binder. -/
private theorem kept_after {object : BoundObject} (hkept : h.object = some object) (e : HostEvent) :
    (h.after e).object = some object ∧ (h.after e).runs = h.runs := by
  cases e with
  | read r =>
    rw [after, read_of_object hkept]
    exact ⟨hkept, rfl⟩
  | _ => exact ⟨hkept, rfl⟩

/-- A kept `object` is kept for good, and no binder is run again. -/
theorem kept_afterAll {object : BoundObject} (hkept : h.object = some object)
    (events : List HostEvent) :
    (h.afterAll events).object = some object ∧ (h.afterAll events).runs = h.runs := by
  induction events generalizing h with
  | nil => exact ⟨hkept, rfl⟩
  | cons e rest ih =>
    obtain ⟨hafter, hruns⟩ := kept_after hkept e
    obtain ⟨hrest, hrunsRest⟩ := ih hafter
    exact ⟨hrest, hrunsRest.trans hruns⟩

/-- There is no `object` as long as every `read` fails. -/
private theorem object_afterAll_eq_none (hnone : h.object = none) {events : List HostEvent}
    (hfail : ∀ earlier r later, events = earlier ++ .read r :: later →
      ∃ e, ((h.afterAll earlier).read r).1 = .error e) : (h.afterAll events).object = none := by
  induction events generalizing h with
  | nil => exact hnone
  | cons e rest ih =>
    refine ih (h := h.after e) ?_ fun earlier r later heq =>
      hfail (e :: earlier) r later (congrArg (e :: ·) heq)
    -- only a read could keep something, and this one fails
    cases e with
    | read r =>
      obtain ⟨err, hread⟩ := hfail [] r rest rfl
      have herror : (h.read r).1 = .error err := hread
      rw [object, Option.map_eq_none_iff] at hnone ⊢
      rw [after, controller_of_read_eq_error herror, hnone]
    | _ => exact hnone

/-- What the events since its opening tell about a host. -/
structure Told (s : Session) (owner : QualifiedName) (d : NavigationDescriptor)
    (events : List HostEvent) (h : Host) : Prop where
  session_eq : h.session = s
  owner_eq : h.owner = owner
  className_eq : h.controller.className = d.className
  rootView_eq : h.controller.rootView = HostEvent.lastOf HostEvent.root? events
  registered_eq : ∀ type,
    h.binders.binders.get? type = HostEvent.lastOf (HostEvent.binder? type) events

section

variable {s : Session} {owner : QualifiedName} {d : NavigationDescriptor} {events : List HostEvent}

/-- A `read` leaves everything as the events before it tell. -/
theorem Told.read (ht : Told s owner d events h) (r : BindingRead) :
    Told s owner d events (h.read r).2 := by
  cases hchoose : h.choose r with
  | error e =>
    rw [read_of_error hchoose]
    exact ht
  | ok b =>
    rw [read_of_ok hchoose]
    rcases h.bindWith b with ⟨fault | object, runs⟩ <;> exact { ht with }

/-- `after` an event, the host is as this event and those before it tell. -/
theorem Told.after (ht : Told s owner d events h) (e : HostEvent) :
    Told s owner d (events ++ [e]) (h.after e) := by
  have hroot := HostEvent.lastOf_append HostEvent.root? events [e]
  have hbinder := fun type => HostEvent.lastOf_append (HostEvent.binder? type) events [e]
  simp only [HostEvent.lastOf_singleton] at hroot hbinder
  -- a root view and a binder are told by the events of their kinds alone
  cases e with
  | attachView root =>
    exact { ht with
            rootView_eq := hroot.symm
            registered_eq := fun type => (ht.registered_eq type).trans (hbinder type).symm }
  | putArgument key p =>
    exact { ht with
            rootView_eq := ht.rootView_eq.trans hroot.symm
            registered_eq := fun type => (ht.registered_eq type).trans (hbinder type).symm }
  | register b =>
    refine { ht with
             rootView_eq := ht.rootView_eq.trans hroot.symm
             registered_eq := fun type => Eq.trans ?_ (hbinder type).symm }
    -- the binder comes under its own type and leaves those of the others
    by_cases htype : b.bindingType = type
    · subst htype
      rw [HostEvent.binder?, if_pos rfl]
      exact SortedMap.get?_put_self _ _ _
    · rw [HostEvent.binder?, if_neg htype, ← ht.registered_eq type]
      exact SortedMap.get?_put_of_ne _ b (Ne.symm htype)
  | read r =>
    have hr := ht.read r
    exact { hr with
            rootView_eq := hr.rootView_eq.trans hroot.symm
            registered_eq := fun type => (hr.registered_eq type).trans (hbinder type).symm }

/-- A host that was opened is as the events since then tell. -/
private theorem told_afterAll (s : Session) (owner : QualifiedName) (d : NavigationDescriptor)
    (events : List HostEvent) : Told s owner d events ((opening s owner d).afterAll events) := by
  -- events are added at the end, while the host runs through them from the front
  suffices hrun : ∀ (before events : List HostEvent) (h : Host),
      Told s owner d before h → Told s owner d (before ++ events) (h.afterAll events) from
    hrun [] events _ ⟨rfl, rfl, rfl, rfl, fun _ => rfl⟩
  intro before events
  induction events generalizing before with
  | nil =>
    intro h ht
    rwa [List.append_nil]
  | cons e rest ih =>
    intro h ht
    rw [List.append_cons]
    exact ih (before ++ [e]) (h.after e) (ht.after e)

/-- The binder that a read uses after some events: of the registered ones, the last of the type. -/
def chosen (s : Session) (owner : QualifiedName) (events : List HostEvent) :
    BindingRead → Except SynthesisError LayoutBinder :=
  binderOf s owner fun type => HostEvent.lastOf (HostEvent.binder? type) events

/-- `choose` finds the binder that the events tell. -/
private theorem Told.choose_eq (ht : Told s owner d events h) (r : BindingRead) :
    h.choose r = chosen s owner events r := by
  rw [choose, chosen, ht.session_eq, ht.owner_eq, funext ht.registered_eq]

/-- `chosen` takes for the member the binder that was registered last for the type in its body. -/
private theorem chosen_member_eq_ok_iff {b : LayoutBinder} :
    chosen s owner events .member = .ok b ↔
      ∃ type, (Executor.mk s {}).body owner .owner bindingName = .ok (.lazyBind type) ∧
        HostEvent.lastOf (HostEvent.binder? type.text) events = some b := by
  unfold chosen binderOf
  cases (Executor.mk s {}).body owner .owner bindingName with
  | error e => exact ⟨nofun, nofun⟩
  | ok body =>
    cases body with
    | lazyBind type =>
      simp only [Except.ok.injEq, Body.lazyBind.injEq, exists_eq_left']
      cases HostEvent.lastOf (HostEvent.binder? type.text) events with
      | none => exact ⟨nofun, nofun⟩
      | some b' => exact ⟨fun hb => congrArg some (Except.ok.inj hb),
          fun hb => congrArg Except.ok (Option.some.inj hb)⟩
    | _ => exact ⟨nofun, nofun⟩

/-- `chosen` has a binder for the member for good, once it has one. -/
private theorem exists_chosen_member_append {b : LayoutBinder}
    (hchosen : chosen s owner events .member = .ok b) (more : List HostEvent) :
    ∃ b', chosen s owner (events ++ more) .member = .ok b' := by
  obtain ⟨type, hbody, hlast⟩ := chosen_member_eq_ok_iff.1 hchosen
  -- a later binder of the type takes the place of the earlier one
  cases hmore : HostEvent.lastOf (HostEvent.binder? type.text) more with
  | none =>
    exact ⟨b, chosen_member_eq_ok_iff.2
      ⟨type, hbody, by rw [HostEvent.lastOf_append, hmore, hlast]; rfl⟩⟩
  | some b' =>
    exact ⟨b', chosen_member_eq_ok_iff.2
      ⟨type, hbody, by rw [HostEvent.lastOf_append, hmore]; rfl⟩⟩

/-- Why a read fails after some events as long as nothing is bound. -/
inductive ReadFails (s : Session) (owner : QualifiedName) (d : NavigationDescriptor)
    (events : List HostEvent) (r : BindingRead) : SynthesisError → Prop where
  | noBinder {e : SynthesisError} (hchosen : chosen s owner events r = .error e) :
      ReadFails s owner d events r e
  | noRootView {b : LayoutBinder} (hchosen : chosen s owner events r = .ok b)
      (hroot : HostEvent.lastOf HostEvent.root? events = none) :
      ReadFails s owner d events r (.fault (.noRootView d.className))
  | missingView {b : LayoutBinder} {root : View} {id : String}
      (hchosen : chosen s owner events r = .ok b)
      (hroot : HostEvent.lastOf HostEvent.root? events = some root)
      (hid : id ∈ b.viewIds) (hmissing : root.find? id = none) :
      ReadFails s owner d events r (.fault (.missingView id root.id))

/-- What a read binds after some events as long as nothing is bound. -/
structure ReadMakes (s : Session) (owner : QualifiedName) (events : List HostEvent)
    (r : BindingRead) (run : BinderRun) (view : BoundView) : Prop where
  chosen_eq : chosen s owner events r = .ok run.binder
  root_eq : HostEvent.lastOf HostEvent.root? events = some run.root
  bind_eq : run.binder.bind run.root = .ok view

/-- A `read` fails for one of the reasons in `ReadFails` or makes the binding, as long as nothing is
bound. -/
private theorem Told.read_cases (ht : Told s owner d events h) (hnone : h.object = none)
    (r : BindingRead) : (∃ e, (h.read r).1 = .error e ∧ ReadFails s owner d events r e) ∨
    ∃ run view, ReadMakes s owner events r run view ∧
      h.read r = h.keep (.ok ⟨h.runs.length, view⟩, h.runs ++ [run]) := by
  rcases Host.read_cases hnone r with
    ⟨e, hread, hchoose | ⟨b, hchoose, hroot, rfl⟩⟩ | ⟨b, root, hchoose, hroot, hbind⟩
  · exact Or.inl ⟨e, congrArg Prod.fst hread, .noBinder (ht.choose_eq r ▸ hchoose)⟩
  · rw [ht.className_eq] at hread
    exact Or.inl ⟨_, congrArg Prod.fst hread,
      .noRootView (ht.choose_eq r ▸ hchoose) (ht.rootView_eq ▸ hroot)⟩
  · rw [ht.choose_eq] at hchoose
    rw [ht.rootView_eq] at hroot
    rcases hbind with ⟨fault, hfault, hread⟩ | ⟨view, hview, hread⟩
    · obtain ⟨id, hid, hmissing, rfl⟩ := LayoutBinder.of_bind_eq_error hfault
      exact Or.inl ⟨_, congrArg Prod.fst hread, .missingView hchoose hroot hid hmissing⟩
    · exact Or.inr ⟨⟨b, root⟩, view, ⟨hchoose, hroot, hview⟩, hread⟩

/-- `ReadFails` has the reason of every failing `read`. -/
private theorem Told.readFails (ht : Told s owner d events h) (hnone : h.object = none)
    {r : BindingRead}
    {e : SynthesisError} (herror : (h.read r).1 = .error e) : ReadFails s owner d events r e := by
  rcases ht.read_cases hnone r with ⟨e', herror', hfails⟩ | ⟨run, view, -, hread⟩
  · rwa [← Except.error.inj (herror'.symm.trans herror)]
  · rw [hread] at herror
    exact nomatch herror

/-- The object that a `read` makes is that of the binder run which is taken down for it. -/
private theorem Told.readMakes (ht : Told s owner d events h) (hnone : h.object = none)
    {r : BindingRead} {object : BoundObject} (hok : (h.read r).1 = .ok object) :
    ∃ run, ReadMakes s owner events r run object.view ∧ object.number = h.runs.length ∧
      (h.after (.read r)).runs = h.runs ++ [run] := by
  rcases ht.read_cases hnone r with ⟨e, herror, -⟩ | ⟨run, view, hmakes, hread⟩
  · exact nomatch herror.symm.trans hok
  · rw [hread] at hok
    obtain rfl := Except.ok.inj hok
    refine ⟨run, hmakes, rfl, ?_⟩
    rw [Host.after, hread]
    rfl

/-- `ReadMakes` runs a passed binder as it is. -/
private theorem ReadMakes.binder_eq {r : BindingRead} {run : BinderRun} {view : BoundView}
    (hmakes : ReadMakes s owner events r run view) {b : LayoutBinder} (hr : r = .passed b) :
    run.binder = b := by
  subst hr
  exact (Except.ok.inj hmakes.chosen_eq).symm

/-- `ReadMakes` runs for the member the last binder of the type in its body, and so the binding has
this type. -/
private theorem ReadMakes.exists_type {r : BindingRead} {run : BinderRun} {view : BoundView}
    (hmakes : ReadMakes s owner events r run view) (hr : r = .member) :
    ∃ type, (Executor.mk s {}).body owner .owner bindingName = .ok (.lazyBind type) ∧
      HostEvent.lastOf (HostEvent.binder? type.text) events = some run.binder ∧
      view.bindingType = type.text := by
  subst hr
  obtain ⟨type, hbody, hlast⟩ := chosen_member_eq_ok_iff.1 hmakes.chosen_eq
  obtain ⟨htype, -⟩ := LayoutBinder.of_bind_eq_ok hmakes.bind_eq
  exact ⟨type, hbody, hlast, htype.trans (HostEvent.bindingType_of_lastOf hlast)⟩

/-- Once a `read` has succeeded, `chosen` has a binder for all later reads of the same kind, and for
those with a passed binder in any case. -/
private theorem exists_chosen_of_read_eq_ok {earlier later : List HostEvent} {r r' : BindingRead}
    {object : BoundObject} (hok : (((opening s owner d).afterAll earlier).read r').1 = .ok object)
    (hkind : (∃ b, r = .passed b) ∨ r' = .member) :
    ∃ b, chosen s owner (earlier ++ .read r' :: later) r = .ok b := by
  cases r with
  | passed b => exact ⟨b, rfl⟩
  | member =>
    -- the member had a binder then, and a binder is never taken away again
    obtain rfl : r' = .member := hkind.resolve_left fun ⟨b, hb⟩ => nomatch hb
    obtain ⟨b, hb⟩ := exists_choose_of_read_eq_ok hok
    rw [(told_afterAll s owner d earlier).choose_eq] at hb
    exact exists_chosen_member_append hb (.read .member :: later)

/-- What a `read` comes to after any events since the `opening` of a screen. The host's reads are
those of controllers and executors, and one that fails leaves the controller as it was (1). As long
as all reads have failed, there is no binding. A read then `ReadFails` for the lack of a binder, a
root view or a view of the layout; otherwise it `ReadMakes` the object of a binder run: the binder
is the one that is passed or for the member the one that was registered last for its type, and the
root view is the one that was attached last (2). From the first read on that gives something back,
every read gives back the same object, if only it has a binder: the passed reads always have one,
and the member's reads have one when it was the member that was read first. Nothing changes any
more, and no binder is run (3). -/
theorem binding_read_once (s : Session) (owner : QualifiedName) (d : NavigationDescriptor)
    (before : List HostEvent) (r : BindingRead) :
    let start := opening s owner d
    let h := start.afterAll before
    -- (1)
    (h.result r =
        (h.read r).1.map fun object => (object.view, (h.after (.read r)).controller)) ∧
    (∀ e, (h.read r).1 = .error e → (h.after (.read r)).controller = h.controller) ∧
    -- (2)
    ((∀ earlier r' later, before = earlier ++ .read r' :: later →
        ∃ e, ((start.afterAll earlier).read r').1 = .error e) →
      h.controller.isBound = false ∧
      (∀ e, (h.read r).1 = .error e → ReadFails s owner d before r e) ∧
      ∀ object, (h.read r).1 = .ok object →
        ∃ run, ReadMakes s owner before r run object.view ∧
          object.number = h.runs.length ∧ (h.after (.read r)).runs = h.runs ++ [run] ∧
          object.view.root = run.root ∧
          (∀ b, r = .passed b → run.binder = b) ∧
          (r = .member → ∃ type,
            (Executor.mk s {}).body owner .owner bindingName = .ok (.lazyBind type) ∧
            HostEvent.lastOf (HostEvent.binder? type.text) before = some run.binder ∧
            object.view.bindingType = type.text)) ∧
    -- (3)
    ∀ earlier r' later object, before = earlier ++ .read r' :: later →
      ((start.afterAll earlier).read r').1 = .ok object →
      (h.read r).1 = (chosen s owner before r).map (fun _ => object) ∧
        ((∃ b, r = .passed b) ∨ r' = .member → (h.read r).1 = .ok object) ∧
        h.after (.read r) = h ∧
        h.runs = ((start.afterAll earlier).after (.read r')).runs := by
  intro start h
  have ht : Told s owner d before h := told_afterAll s owner d before
  refine ⟨result_eq_read r, fun e => controller_of_read_eq_error, fun hfail => ?_, ?_⟩
  · have hnone : h.object = none := object_afterAll_eq_none rfl hfail
    refine ⟨?_, fun e => ht.readFails hnone, fun object hok => ?_⟩
    · rw [Controller.isBound, Option.map_eq_none_iff.1 hnone]
      rfl
    · obtain ⟨run, hmakes, hnumber, hruns⟩ := ht.readMakes hnone hok
      exact ⟨run, hmakes, hnumber, hruns, (LayoutBinder.of_bind_eq_ok hmakes.bind_eq).2,
        fun b => hmakes.binder_eq, hmakes.exists_type⟩
  · rintro earlier r' later object rfl hok
    -- what the earlier read has kept is still there after the later events
    have hsplit : h = ((start.afterAll earlier).after (.read r')).afterAll later :=
      List.foldl_append
    obtain ⟨hobject, hruns⟩ := kept_afterAll (object_of_read_eq_ok hok) later
    have hread := read_of_object (hsplit ▸ hobject : h.object = some object) r
    rw [ht.choose_eq] at hread
    refine ⟨congrArg Prod.fst hread, fun hkind => ?_, congrArg Prod.snd hread, hsplit ▸ hruns⟩
    obtain ⟨b, hb⟩ := exists_chosen_of_read_eq_ok hok hkind
    rw [hread, hb]
    rfl

/-- The binding of the album's screen is made at its third read, once there are a binder and a view,
and stays the same one when a binder is registered that would not find its title. -/
theorem binding_read_once_album :
    let s := (Session.new ⟨{ classes := [Session.album] }, by decide⟩
      { appNamespace := some " app ", bindingPackage := "\tviews " }
      fun type => type = ⟨"app.views.PhotoListBinding"⟩).afterCalls
        [.scan, .validate, .synthesizeSignatures, .synthesizeBodies]
    let start := opening s ⟨"app.Album"⟩ { key := "app.Album", className := "app.Album" }
    let earlier := [.read .member, .register ⟨"app.views.PhotoListBinding", []⟩, .read .member,
      .attachView ⟨"album", []⟩]
    let later := [.register ⟨"app.views.PhotoListBinding", ["title"]⟩, .attachView ⟨"bare", []⟩]
    ∃ object : BoundObject, object.number = 0 ∧ object.view.root.id = "album" ∧
      ((start.afterAll earlier).read .member).1 = .ok object ∧
      ((start.afterAll (earlier ++ .read .member :: later)).read .member).1 = .ok object := by
  intro s start earlier later
  -- the reads before it fail for the lack of a binder and of a root view
  have hfirst : ((start.afterAll earlier).read .member).1.toOption.map
      (fun object => (object.number, object.view.root.id)) = some (0, "album") := by
    decide +kernel
  cases hread : ((start.afterAll earlier).read .member).1 with
  | error e =>
    rw [hread] at hfirst
    exact nomatch hfirst
  | ok object =>
    rw [hread] at hfirst
    obtain ⟨hnumber, hid⟩ := Prod.mk.inj (Option.some.inj hfirst)
    obtain ⟨-, -, -, hkept⟩ := binding_read_once s ⟨"app.Album"⟩
      { key := "app.Album", className := "app.Album" } (earlier ++ .read .member :: later) .member
    obtain ⟨-, hsame, -⟩ := hkept earlier .member later object rfl hread
    exact ⟨object, hnumber, hid, rfl, hsame (Or.inr rfl)⟩

end

end Host

end ScreenSynthesis
