import Mathlib.Data.List.Basic

/-!
# Readers of events

A reader has a view, which every event changes, and may say which events are expected when it has
some view.  A batch of events leads from one view to another.

* `expectsAll_append`: events are expected if they are so one after the other;
* `Leads.append`: batches one after the other.
-/

/-- How a view changes with an event, and when the event is expected. -/
structure Reader (ν ε : Type*) where
  receive : ν → ε → ν
  Expects : ν → ε → Prop

namespace Reader

variable {ν ε : Type*} (R : Reader ν ε) {v v' v'' : ν} {events events' : List ε} {g g' : Prop}

/-- The view after the events. -/
def receiveAll (v : ν) (events : List ε) : ν := events.foldl R.receive v

/-- All events are expected when they are received. -/
def ExpectsAll (v : ν) : List ε → Prop
  | [] => True
  | event :: events => R.Expects v event ∧ ExpectsAll (R.receive v event) events

/-- The view after the events is `v'`, and the events are all expected just if `g`. -/
structure Leads (g : Prop) (v : ν) (events : List ε) (v' : ν) : Prop where
  receiveAll_eq : R.receiveAll v events = v'
  expectsAll_iff : R.ExpectsAll v events ↔ g

theorem receiveAll_append (v : ν) (events events' : List ε) :
    R.receiveAll v (events ++ events') = R.receiveAll (R.receiveAll v events) events' :=
  List.foldl_append

theorem expectsAll_append (v : ν) (events events' : List ε) :
    R.ExpectsAll v (events ++ events') ↔
      R.ExpectsAll v events ∧ R.ExpectsAll (R.receiveAll v events) events' := by
  induction events generalizing v with
  | nil => exact (and_iff_right trivial).symm
  | cons event events ih =>
    rw [List.cons_append]
    change _ ∧ R.ExpectsAll (R.receive v event) (events ++ events') ↔ (_ ∧ _) ∧ _
    rw [ih, and_assoc]
    rfl

variable {R}

namespace Leads

theorem nil (v : ν) : R.Leads True v [] v := ⟨rfl, Iff.rfl⟩

theorem single {event : ε} (hreceive : R.receive v event = v') (hexpects : R.Expects v event ↔ g) :
    R.Leads g v [event] v' :=
  ⟨hreceive, (and_iff_left trivial).trans hexpects⟩

theorem congr (h : R.Leads g v events v') (hg : g ↔ g') : R.Leads g' v events v' :=
  ⟨h.receiveAll_eq, h.expectsAll_iff.trans hg⟩

theorem of_eq (h : R.Leads g v events v') (hevents : events = events') : R.Leads g v events' v' :=
  hevents ▸ h

theorem append (h : R.Leads g v events v') (h' : R.Leads g' v' events' v'') :
    R.Leads (g ∧ g') v (events ++ events') v'' := by
  obtain ⟨rfl, hexpects⟩ := h
  refine ⟨(R.receiveAll_append v events events').trans h'.receiveAll_eq, ?_⟩
  rw [expectsAll_append, hexpects, h'.expectsAll_iff]

/-- Batches that are expected anyway. -/
theorem append_true (h : R.Leads True v events v') (h' : R.Leads True v' events' v'') :
    R.Leads True v (events ++ events') v'' :=
  (h.append h').congr (and_iff_left trivial)

end Leads

end Reader
