import UdeSample.Gadget.Options
import UdeSample.Lib.Ledger

/-!
# The gadget (`one.c`)

`zero_bind` gets an instance of the loopback function, gives it the options of the module and makes
the function of the only configuration, and `zero_unbind` gives all of it back. With `autoresume`
every suspend starts a timer that wakes the host up, later each time until the longest delay.

The composite framework is not part of the repository. It calls `zero_unbind` after a `zero_bind`
that succeeded, and `zero_suspend` and `zero_resume` in between; what it answers is an argument. An
`ERR_PTR` is `none` as `NULL` is. Putting a dead function or instance ends in `none`.

A callback is one step, and so is the handler of the timer. `zero_unbind` waits for a handler that
is running (`del_timer_sync`); `zero_resume` does not (`del_timer`), so that on a second processor
the handler may go on into the callback, which is not modelled.
-/

namespace UdeSample

open Lib

/-- A negative error number. -/
structure Errno where
  value : Int
  negative : value < 0

def usbConfigAttWakeup : UCHAR := 0x20

def usbConfigAttSelfpower : UCHAR := 0x40

/-- The parameters of the module that stay what they are. -/
structure OneParams where
  autoresume : ULONG
  maxAutoresume : ULONG
  autoresumeIntervalMs : ULONG

structure GadgetOne where
  instances : Store FLbOpts
  /-- the functions, each with its instance -/
  functions : Store (Nat × FLoopback)
  otgDescs : Store Unit
  funcInstLb : Option Nat
  funcLb : Option Nat
  otgDesc : Option Nat
  /-- `gzero_options` -/
  bulkBuflen : ULONG
  qlen : ULONG
  bmAttributes : UCHAR
  autoresumeStepMs : ULONG
  /-- the delay of `autoresume_timer` while it is pending -/
  timer : Option ULONG
  bound : Bool

def oneInit (bulkBuflen qlen : ULONG) : GadgetOne :=
  { instances := .empty, functions := .empty, otgDescs := .empty, funcInstLb := none
    funcLb := none, otgDesc := none, bulkBuflen, qlen, bmAttributes := usbConfigAttSelfpower
    autoresumeStepMs := 0, timer := none, bound := false }

inductive OneRecord where
  | bindReturned (status : Int)
  | putFunction (f : Nat)
  | putInstance (fi : Nat)
  | freedOtg (desc : Nat)
  | armed (ms : ULONG)
  | disarmed
  /-- `usb_gadget_wakeup`, with the attributes that the host knows -/
  | wakeup (bmAttributes : UCHAR)
deriving DecidableEq

/-! ## The function -/

/-- `usb_get_function`, which is `loopback_alloc`. -/
def usbGetFunction (fi : Nat) (o : Except Errno Unit) (s : GadgetOne) :
    Option (Except Errno (Nat × GadgetOne)) :=
  match o with
  | .error e => some (.error e)
  | .ok () => (s.instances.get? fi).map fun opts =>
    .ok (s.functions.next,
      { s with
        instances := s.instances.update fi { opts with refcnt := opts.refcnt + 1 }
        functions := s.functions.create (fi, ⟨loopbackQlen opts.qlen, opts.bulkBuflen⟩) })

/-- `usb_put_function`, which is `lb_free_func`. -/
def usbPutFunction (f : Nat) (s : GadgetOne) : Option (GadgetOne × List OneRecord) :=
  (s.functions.get? f).bind fun (fi, _) => (s.instances.get? fi).map fun opts =>
    ({ s with
      instances := s.instances.update fi { opts with refcnt := opts.refcnt - 1 }
      functions := s.functions.delete f }, [.putFunction f])

/-- `usb_put_function_instance`, which is `lb_free_instance`. -/
def usbPutFunctionInstance (fi : Nat) (s : GadgetOne) : Option (GadgetOne × List OneRecord) :=
  (s.instances.free? fi).map fun instances => ({ s with instances }, [.putInstance fi])

def kfreeOtgDesc (s : GadgetOne) : Option (GadgetOne × List OneRecord) :=
  match s.otgDesc with
  | none => some (s, [])
  | some desc => (s.otgDescs.free? desc).map fun otgDescs =>
    ({ s with otgDescs, otgDesc := none }, [.freedOtg desc])

/-! ## `zero_bind` and `zero_unbind` -/

/-- What the framework answers to `zero_bind`. -/
structure BindOutcomes where
  usbStringIdsTab : Except Errno Unit
  usbGetFunctionInstance : Except Errno Unit
  usbGetFunction : Except Errno Unit
  gadgetIsOtg : Bool
  usbOtgDescriptorAlloc : Bool
  usbAddFunction : Except Errno Unit

/-- From the label `err_put_func_inst_lb` on. -/
def errPutFuncInstLb (fi : Nat) (status : Int) (s : GadgetOne) :
    Option (GadgetOne × List OneRecord) :=
  (usbPutFunctionInstance fi s).map fun (s, out) =>
    ({ s with funcInstLb := none }, out ++ [.bindReturned status])

/-- From the label `err_conf_flb` on. -/
def errConfFlb (fi f : Nat) (status : Int) (s : GadgetOne) :
    Option (GadgetOne × List OneRecord) :=
  (usbPutFunction f s).bind fun (s, out) =>
    (errPutFuncInstLb fi status { s with funcLb := none }).map fun (s, out') => (s, out ++ out')

/-- From the label `err_free_otg_desc` on. -/
def errFreeOtgDesc (fi f : Nat) (status : Int) (s : GadgetOne) :
    Option (GadgetOne × List OneRecord) :=
  (kfreeOtgDesc s).bind fun (s, out) =>
    (errConfFlb fi f status s).map fun (s, out') => (s, out ++ out')

/-- Autoresume, in the configuration. -/
def GadgetOne.withAutoresume (p : OneParams) (s : GadgetOne) : GadgetOne :=
  let bmAttributes := s.bmAttributes &&& ~~~usbConfigAttWakeup
  if p.autoresume ≠ 0 then
    { s with
      bmAttributes := bmAttributes ||| usbConfigAttWakeup
      autoresumeStepMs := p.autoresume * 1000 }
  else { s with bmAttributes }

/-- The OTG descriptor, in the configuration. -/
def GadgetOne.withOtg (s : GadgetOne) : GadgetOne :=
  let bmAttributes := s.bmAttributes ||| usbConfigAttWakeup
  match s.otgDesc with
  | none =>
    { s with
      bmAttributes, otgDesc := some s.otgDescs.next, otgDescs := s.otgDescs.create () }
  | some _ => { s with bmAttributes }

/-- `zero_bind` once it has the function: the configuration is made and added. -/
def bindConfiguration (p : OneParams) (o : BindOutcomes) (fi f : Nat) (s : GadgetOne) :
    Option (GadgetOne × List OneRecord) :=
  let s := s.withAutoresume p
  if o.gadgetIsOtg ∧ s.otgDesc = none ∧ ¬ o.usbOtgDescriptorAlloc then errConfFlb fi f (-enomem) s
  else
    let s := if o.gadgetIsOtg then s.withOtg else s
    match o.usbAddFunction with
    | .error e => errFreeOtgDesc fi f e.value s
    | .ok () => some ({ s with bound := true }, [.bindReturned 0])

def zeroBind (p : OneParams) (o : BindOutcomes) (s : GadgetOne) :
    Option (GadgetOne × List OneRecord) :=
  match o.usbStringIdsTab with
  | .error e => some (s, [.bindReturned e.value])
  | .ok () =>
    -- `setup_timer`
    let s := { s with timer := none }
    match o.usbGetFunctionInstance with
    | .error e => some ({ s with funcInstLb := none }, [.bindReturned e.value])
    | .ok () =>
      let fi := s.instances.next
      let opts := { loopbackAllocInstance.opts with bulkBuflen := s.bulkBuflen, qlen := s.qlen }
      let s := { s with funcInstLb := some fi, instances := s.instances.create opts }
      (usbGetFunction fi o.usbGetFunction s).bind fun
        | .error e => errPutFuncInstLb fi e.value { s with funcLb := none }
        | .ok (f, s) => bindConfiguration p o fi f { s with funcLb := some f }

def zeroUnbind (s : GadgetOne) : Option (GadgetOne × List OneRecord) :=
  let s := { s with timer := none, bound := false }
  (match s.funcLb with
    | none => some (s, [])
    | some f => usbPutFunction f s).bind fun (s, out) =>
      s.funcInstLb.bind fun fi => (usbPutFunctionInstance fi s).bind fun (s, out') =>
        (kfreeOtgDesc s).map fun (s, out'') => (s, .disarmed :: (out ++ out' ++ out''))

/-! ## Suspend and resume -/

def zeroSuspend (p : OneParams) (speedKnown : Bool) (s : GadgetOne) :
    GadgetOne × List OneRecord :=
  if speedKnown ∧ p.autoresume ≠ 0 then
    let stepMs := if p.maxAutoresume ≠ 0 ∧ p.maxAutoresume * 1000 < s.autoresumeStepMs then
        p.autoresume * 1000
      else s.autoresumeStepMs
    ({ s with timer := some stepMs, autoresumeStepMs := stepMs + p.autoresumeIntervalMs },
      [.armed stepMs])
  else (s, [])

def zeroResume (s : GadgetOne) : GadgetOne × List OneRecord :=
  ({ s with timer := none }, [.disarmed])

/-- The timer has fired. -/
def zeroAutoresume (configured speedKnown : Bool) (s : GadgetOne) : GadgetOne × List OneRecord :=
  ({ s with timer := none }, if configured ∧ speedKnown then [.wakeup s.bmAttributes] else [])

/-! ## Runs -/

inductive OneEvent where
  | bind (o : BindOutcomes)
  | unbind
  | suspend (speedKnown : Bool)
  | resume
  | timer (configured speedKnown : Bool)
  | setQlen (qlen : ULONG)

def GadgetOne.accepts (s : GadgetOne) : OneEvent → Bool
  | .bind _ => !s.bound
  | .unbind | .suspend _ | .resume => s.bound
  | .timer _ _ => s.timer.isSome
  | .setQlen _ => true

def oneHandle (p : OneParams) (s : GadgetOne) : OneEvent → Option (GadgetOne × List OneRecord)
  | .bind o => zeroBind p o s
  | .unbind => zeroUnbind s
  | .suspend speedKnown => some (zeroSuspend p speedKnown s)
  | .resume => some (zeroResume s)
  | .timer configured speedKnown => some (zeroAutoresume configured speedKnown s)
  | .setQlen qlen => some ({ s with qlen }, [])

def oneStep (p : OneParams) (s : GadgetOne) (e : OneEvent) :
    Option (GadgetOne × List OneRecord) :=
  if s.accepts e then oneHandle p s e else none

def oneRun (p : OneParams) (bulkBuflen qlen : ULONG) (t : List OneEvent) :
    Option (GadgetOne × List OneRecord) :=
  run (logged (oneStep p)) (oneInit bulkBuflen qlen, []) t

end UdeSample
