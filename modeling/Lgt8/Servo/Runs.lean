import Mathlib.Tactic
import Lgt8.Firmware.Mail
import Lgt8.Servo.Drive

/-!
# Runs of the servo driver

The servo driver sees what the sweep driver sees, and the tachometer besides: the timer ticks, a
tachometer pulse arrives, a message is posted to the queue, some other event is pushed, or the main
loop services the event at the front (`turn`).

Seen through `drive` such a step is a tick of the drive, a message it obeys, or nothing
(**`step_drive`**), and a turn that services a message always succeeds.
-/

namespace Lgt8.Servo

open Library DoubleOps

variable {F : Type} [DoubleOps F]

/-- What can happen to the driver. -/
inductive Label
  | tick
  | tach
  | post (m : AntaresMsg)
  | push (evt : Event)
  | turn

/-- The timer interrupt, as far as the servo is concerned. -/
def pitTick (s : ServoCtx F) : ServoCtx F :=
  let s := serviceBoard s
  { s with world.bspcounter := s.world.bspcounter + 1 }

/-- The tachometer interrupt. -/
def tachTick (s : ServoCtx F) : ServoCtx F := serviceTach (getTick s) s

/-- `ethergate` copies a message into a new object, and the post office hands it on. -/
def post (m : AntaresMsg) (s : ServoCtx F) : ServoCtx F :=
  pushEvent (.of .servoEthSig 1 (.msg s.world.heap.next))
    { s with world.heap := s.world.heap.alloc m }

def step (s : ServoCtx F) : Label → Except Fault (ServoCtx F)
  | .tick => .ok (pitTick s)
  | .tach => .ok (tachTick s)
  | .post m => .ok (post m s)
  | .push evt => .ok (pushEvent evt s)
  | .turn => serviceFront s

/-- The message the next turn services, if it services one. -/
def frontMsg (s : ServoCtx F) : Option AntaresMsg :=
  announced .servoEthSig s.obj.events s.world.heap

/-- The message this step services, if it services one. -/
def servicedMsg (s : ServoCtx F) : Label → Option AntaresMsg
  | .turn => frontMsg s
  | _ => none

/-- The value of an uninitialised local, should the next message read one. -/
def junk (s : ServoCtx F) : ℤ := int32 (s.world.stack 0)

lemma pitTick_duty (s : ServoCtx F) : (pitTick s).world.duty0 = (drive s).nextDuty := by
  obtain ⟨r, hr⟩ := drive_serviceBoard s
  have h : (pitTick s).world.duty0 = (drive (serviceBoard s)).duty := rfl
  rw [h, hr]
  rfl

/-! ## Turns -/

lemma serviceFront_nil {s : ServoCtx F} (h : s.obj.events = []) : serviceFront s = .ok s := by
  rw [serviceFront, h]

lemma serviceFront_ok {s t : ServoCtx F} {e : Event} {rest : List Event}
    (hs : s.obj.events = e :: rest) (h : serviceFront s = .ok t) :
    ∃ u, serviceEvent e s = .ok u ∧ t = popEvent u := by
  rw [serviceFront, hs] at h
  cases hu : serviceEvent e s with
  | error x => simp only [hu] at h; cases h
  | ok u =>
      simp only [hu] at h
      cases h
      exact ⟨u, rfl, rfl⟩

/-- What servicing an event does. -/
inductive Serviced (e : Event) (s t : ServoCtx F) : Prop
  | msg {a : ℕ} {m : AntaresMsg} (he : e.evtype = SigTypes.servoEthSig.bits)
      (ha : e.payload = .msg a) (live : s.world.heap.cell a = some m)
      (h : t = deleteMsg a (serviceMsg m s))
  | tick (he : e.evtype ≠ SigTypes.servoEthSig.bits) (h : t = fsmTick s)
  | ignored (he : e.evtype ≠ SigTypes.servoEthSig.bits) (h : t = s)

/-- **What servicing an event does**, whatever the event. -/
theorem serviceEvent_serviced {e : Event} {s t : ServoCtx F} (h : serviceEvent e s = .ok t) :
    Serviced e s t := by
  rw [serviceEvent] at h
  split_ifs at h with hr he ht
  · cases h
    exact .tick (by rw [hr]; decide) rfl
  · split at h
    · next a ha =>
        split at h
        · next m live =>
            cases h
            exact .msg he ha live rfl
        · cases h
    · cases h
  · cases h
    exact .tick he rfl
  · cases h
    exact .ignored he rfl

/-- A turn, seen through `drive`. -/
lemma serviceFront_drive {s t : ServoCtx F} (h : serviceFront s = .ok t) :
    (frontMsg s = none ∧ drive t = drive s) ∨
      ∃ m, frontMsg s = some m ∧ drive t = (drive s).obey m (junk s) := by
  cases he : s.obj.events with
  | nil =>
      rw [serviceFront_nil he] at h
      cases h
      exact Or.inl ⟨by rw [frontMsg, he, announced_nil], rfl⟩
  | cons e rest =>
      obtain ⟨u, hu, rfl⟩ := serviceFront_ok he h
      cases serviceEvent_serviced hu with
      | @msg a m hty ha live hu =>
          refine Or.inr ⟨m, by rw [frontMsg, he, announced_cons hty ha, live], ?_⟩
          rw [hu]
          exact drive_serviceMsg m s
      | tick hty hu =>
          refine Or.inl ⟨by rw [frontMsg, he, announced_of_ne hty], ?_⟩
          rw [hu]
          exact drive_fsmTick s
      | ignored hty hu =>
          refine Or.inl ⟨by rw [frontMsg, he, announced_of_ne hty], ?_⟩
          rw [hu]
          rfl

/-- **A step, seen through `drive`**: a tick, a message obeyed, or nothing. -/
theorem step_drive {s t : ServoCtx F} {l : Label} (h : step s l = .ok t) :
    (servicedMsg s l = none ∧ ∃ r, drive t = (drive s).ticked r) ∨
      (∃ m, servicedMsg s l = some m ∧ drive t = (drive s).obey m (junk s)) ∨
      (servicedMsg s l = none ∧ drive t = drive s) := by
  cases l with
  | tick =>
      cases h
      exact Or.inl ⟨rfl, drive_serviceBoard s⟩
  | tach =>
      cases h
      exact Or.inr (Or.inr ⟨rfl, drive_serviceTach _ s⟩)
  | post m =>
      cases h
      exact Or.inr (Or.inr ⟨rfl, rfl⟩)
  | push evt =>
      cases h
      exact Or.inr (Or.inr ⟨rfl, rfl⟩)
  | turn =>
      rcases serviceFront_drive h with hq | hm
      · exact Or.inr (Or.inr hq)
      · exact Or.inr (Or.inl hm)

/-- At the start nothing is asked for, and the channel counts as given one percent. -/
lemma boot_drive (raw : Servo F) (w : World F) :
    drive (boot raw w) = ⟨1, 1, w.duty0, zero⟩ := rfl

/-! ## What every run keeps -/

lemma faithful_step {s t : ServoCtx F} {l : Label} (hs : Drive.Faithful (drive s))
    (h : step s l = .ok t) : Drive.Faithful (drive t) := by
  rcases step_drive h with ⟨_, r, hr⟩ | ⟨m, _, hm⟩ | ⟨_, hn⟩
  · exact hr ▸ hs.ticked r
  · exact hm ▸ hs.obey m _
  · exact hn ▸ hs

/-- **In every state a run can reach, a channel last given zero is off.** -/
theorem faithful_run (raw : Servo F) (w : World F) {labels : List Label} {s : ServoCtx F}
    (hs : run step (boot raw w) labels = .ok s) : Drive.Faithful (drive s) := by
  refine run_invariant' (I := fun s => Drive.Faithful (drive s))
    (fun _ _ _ hI h => faithful_step hI h) ?_ hs
  rw [boot_drive]
  exact fun h => absurd h (show (1 : UInt8) ≠ 0 by decide)

end Lgt8.Servo
