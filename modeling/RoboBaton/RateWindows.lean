import RoboBaton.Camera.RateLog
import RoboBaton.Imu.RateLog

/-! The rate logs of the cameras and of the IMU neither lose nor count twice. -/

namespace RoboBaton
open Transition

/-- Whatever the threads do between two loads of a snapshot, the windows account for the
counters. -/
theorem rate_windows :
    (∀ (D : Type) [Fintype D] [DecidableEq D] (cameraInfo : Bool)
      (x : Camera.State D × Camera.RateTimer), (Camera.rateSystem D cameraInfo).Reachable x →
      ∀ c, Camera.Unwrapped (x.1.shared.metrics c) →
        (x.2.logs c).baseline = .zero ∧ (x.2.logs c).Accounts) ∧
    ∀ (P : Type) [Inhabited P] (temperature : Bool) (x : Imu.State P × Imu.RateTimer),
      (Imu.rateSystem P temperature).Reachable x → Imu.Unwrapped x.1.shared →
        x.2.log.Accounts := by
  constructor
  · intro D _ _ cameraInfo x h c hbound
    have hlog := Camera.reachable_logOk h hbound
    exact ⟨hlog.baseline, hlog.log.accounts⟩
  · intro P _ temperature x h hbound
    exact (Imu.reachable_timerOk h hbound).log.accounts

/-! ### A run -/

namespace Imu

def loggedRun : List ((Σ i, Act Unit i) ⊕ RateAct) :=
  rateStart.map .inl ++ (.snapshot 10 :: List.replicate 17 .step).map .inr ++
    (producerDoes [.callback (some ⟨sampleStructSize, 5, ()⟩) 11, .step, .step, .step]).map .inl ++
    (.snapshot 20 :: List.replicate 17 .step).map .inr

def loggedEnd : State Unit × RateTimer :=
  ((rateSystem Unit false).run loggedRun (rateSystem Unit false).start).get rfl

end Imu

theorem rate_windows_logged :
    ((Camera.loggedEnd.2.logs 0).records.map fun r => r.count .source) = [1, 0] ∧
    (Camera.loggedEnd.2.logs 0).Accounts ∧
    (Imu.loggedEnd.2.log.records.map fun r => r.count .source) = [1] ∧
    Imu.loggedEnd.2.log.Accounts :=
  ⟨by decide,
    (rate_windows.1 Unit false Camera.loggedEnd (System.reachable_get _) 0
      fun f => by cases f <;> decide).2,
    by decide,
    rate_windows.2 Unit false Imu.loggedEnd (System.reachable_get _)
      fun f => by cases f <;> decide⟩

end RoboBaton
