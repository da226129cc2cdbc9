/-
The poll loop on the emulated device. The wait of the composed system is the driver's `nand_wait()`, its
polls answered by the handler of `gpio_get()` and its readings taken from the clock.
-/
import NandRig.Stack.System
import NandRig.Driver.Wait

namespace NandRig.Stack

open Emulator Driver Interact Wait

/-- What `gpio_get()` returns if the handler pokes nothing. -/
abbrev gpioDummy : UInt64 := 0xAB

def gpioGetStatus (d : Device) (pin : UInt32) (timenow : TimeUs) : UInt32 :=
  ((handleBreakpointGpioGet d pin.toUInt64 timenow).getD gpioDummy).toUInt32

/-- The device and the clock as the surroundings of a wait: a sleep takes no reading. -/
def pollEnv (d : Device) : Env WaitOp WaitOp.Res Asked Clock
  | .now, c => ([.now (c 0)], some (c 0, c.after 1))
  | .gpioGet pin, c => ([.poll (c 0) (gpioGetStatus d pin (c 0))], some (gpioGetStatus d pin (c 0), c.after 1))
  | .usleep us, c => ([.sleep (c 0) us], some ((), c))

theorem gpioGetStatus_ready {d : Device} {t : TimeUs} :
    gpioGetStatus d pnStatus.toUInt32 t = deviceReady.toUInt32 ↔ pollReady d t = true := by
  have hpin : pnStatus.toUInt32.toUInt64 = pnStatus := rfl
  unfold gpioGetStatus pollReady
  rw [hpin, handleBreakpointGpioGet, if_pos rfl]
  cases beforeDeadline d.deadline t <;> decide

theorem Clock.after_after (c : Clock) (m n : Nat) : (c.after m).after n = c.after (m + n) := by
  funext i
  exact congrArg c (Nat.add_assoc m n i).symm

/-- The value a run of the driver's wait returns, with the readings it leaves. -/
def waited (d : Device) (p : WaitM (Option Int)) (c : Clock) : Option (Int × Clock) :=
  (run (pollEnv d) p c).2.bind fun x => x.1.map fun r => (r, x.2)

end NandRig.Stack
