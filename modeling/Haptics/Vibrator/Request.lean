import Haptics.Vibrator.Playback
import Haptics.Vibrator.Report

/-!
# Requests

What a host may ask of a vibrator, as values: several callers share one vibrator by handing it
their requests, which it serves one after the other.
-/

namespace Haptics

/-- What a host may ask. -/
inductive Request where
  | on (duration : UInt32)
  | off
  | effect (effect : Effect) (strength : Strength)
  | amplitude (amplitude : Float32)
  | external (enabled : Bool)
  | supportsAmplitude
  | supportsExternal
  | report

/-- What a vibrator answers. -/
inductive Reply where
  | done
  | duration (duration : UInt32)
  | outcome (outcome : EffectOutcome)
  | supported (answer : Bool)
  | report (text : String)
  | refused (error : Error)

namespace Reply

def ofExcept {α : Type} (answer : α → Reply) : Except Error α → Reply
  | .ok value => answer value
  | .error error => refused error

end Reply

namespace Vibrator
variable {σ : Type} [Device σ]

def serve (v : Vibrator σ) : Request → Reply × Vibrator σ
  | .on duration => (v.on duration).map (Reply.ofExcept .duration) id
  | .off => v.off.map (Reply.ofExcept fun _ => .done) id
  | .effect effect strength => (v.performEffect effect strength).map (Reply.ofExcept .outcome) id
  | .amplitude amplitude => (v.setAmplitude amplitude).map (Reply.ofExcept fun _ => .done) id
  | .external enabled => (v.setExternal enabled).map (Reply.ofExcept fun _ => .done) id
  | .supportsAmplitude => v.supportsAmplitude.map .supported id
  | .supportsExternal => (.supported v.supportsExternal, v)
  | .report => (.report v.report, v)

/-- Serves requests in the order in which they come in. -/
def serveAll (v : Vibrator σ) : List Request → List Reply × Vibrator σ
  | [] => ([], v)
  | request :: rest =>
    let (reply, v) := v.serve request
    let (replies, v) := v.serveAll rest
    (reply :: replies, v)

end Vibrator
end Haptics
