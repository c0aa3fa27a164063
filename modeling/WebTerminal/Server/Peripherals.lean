import WebTerminal.Server.Handlers

/-!
# Procedures that leave the settings alone

The bodies of most handlers work on the pins, the certificates and the world
outside the board.  Whatever they are answered, the configuration, the radio and
the serial ports stay as they are.
-/

set_option autoImplicit false

namespace WebTerminal

open Proc

/-- At most the pins and the certificates are touched. -/
def OnlyPeripherals (board : Board) (_ : List Effect) (board' : Board) : Prop :=
  board' = { board with gpio := board'.gpio, certs := board'.certs }

section

variable {board board' : Board} {es : List Effect}

theorem OnlyPeripherals.config (h : OnlyPeripherals board es board') :
    board'.config = board.config := by
  unfold OnlyPeripherals at h
  rw [h]

theorem OnlyPeripherals.nvs (h : OnlyPeripherals board es board') : board'.nvs = board.nvs := by
  unfold OnlyPeripherals at h
  rw [h]

theorem OnlyPeripherals.wifi (h : OnlyPeripherals board es board') : board'.wifi = board.wifi := by
  unfold OnlyPeripherals at h
  rw [h]

theorem OnlyPeripherals.tz (h : OnlyPeripherals board es board') : board'.tz = board.tz := by
  unfold OnlyPeripherals at h
  rw [h]

end

theorem onlyPeripherals_composes : Composes OnlyPeripherals where
  refl _ := rfl
  trans := by
    intro a b c es fs h h'
    unfold OnlyPeripherals at h h' ⊢
    rw [h', h]

/-- A procedure that touches nothing else. -/
abbrev Peripheral {α : Type} (m : BoardM α) : Prop := Does OnlyPeripherals m

namespace Peripheral

variable {α β : Type}

theorem pure (a : α) : Peripheral (pure a : BoardM α) := does_pure onlyPeripherals_composes a

theorem read (f : Board → α) : Peripheral (Proc.read f) := does_read onlyPeripherals_composes f

theorem ask (answer : ℕ → α) : Peripheral (Proc.ask answer) :=
  does_ask onlyPeripherals_composes answer

theorem stop (r : Stop) : Peripheral (Proc.stop r : BoardM α) :=
  does_stop onlyPeripherals_composes r

theorem emit (e : Effect) : Peripheral (Proc.emit e) := does_emit fun _ => rfl

theorem update {f : Board → Board} (h : ∀ board, OnlyPeripherals board [] (f board)) :
    Peripheral (Proc.update f) := does_update h

theorem bind {m : BoardM α} {f : α → BoardM β} (hm : Peripheral m) (hf : ∀ a, Peripheral (f a)) :
    Peripheral (m >>= f) := Does.bind onlyPeripherals_composes hm hf

theorem ite {p : Prop} [Decidable p] {m n : BoardM α} (hm : Peripheral m) (hn : Peripheral n) :
    Peripheral (if p then m else n) := Does.ite (fun _ => hm) fun _ => hn

theorem sendJsonError (status : ℕ) (message : String) :
    Peripheral (sendJsonError status message : BoardM α) := stop _

theorem rejectIf (p : Prop) [Decidable p] (status : ℕ) (message : String) :
    Peripheral (rejectIf p status message) := ite (sendJsonError status message) (pure ())

end Peripheral

section

variable (pf : Platform) (env : Env) (req : Request)

/-! ## Drivers -/

theorem gpioSbcReset_peripheral : Peripheral (gpioSbcReset env) := by
  refine (Peripheral.emit _).bind fun _ => (Peripheral.emit _).bind fun _ => ?_
  exact (Peripheral.emit _).bind fun _ => .bind (.update fun _ => rfl) fun _ => .pure _

theorem powerSet_peripheral (on : Bool) : Peripheral (powerSet env on) := by
  refine (Peripheral.read _).bind fun gpio => .ite (.pure _) (.ite (.pure _) ?_)
  exact (Peripheral.emit _).bind fun _ => .bind (.update fun _ => rfl) fun _ =>
    .pure _

theorem gpioSbcPowerToggle_peripheral : Peripheral (gpioSbcPowerToggle env) :=
  (Peripheral.read _).bind fun _ => powerSet_peripheral env _

theorem serialPortSend_peripheral (port : ℤ) (data : List UInt8) :
    Peripheral (serialPortSend pf env port data) := by
  refine .ite (.pure _) (.ite ?_ ?_)
  · exact (Peripheral.emit _).bind fun _ => (Peripheral.ask _).bind fun _ => .pure _
  · refine (Peripheral.read _).bind fun serial => .ite (.pure _) (.ite (.pure _) ?_)
    exact (Peripheral.emit _).bind fun _ => .ask _

/-! ## Reading -/

theorem readBody_peripheral (bufLen : ℕ) : Peripheral (readBody env req bufLen) :=
  does_readBody env onlyPeripherals_composes req bufLen

theorem readResponse_peripheral : ∀ (fuel : ℕ) (buffer : List UInt8),
    Peripheral (readResponse env fuel buffer) := by
  intro fuel
  induction fuel with
  | zero => intro buffer; exact .pure _
  | succ fuel ih =>
      intro buffer
      refine (Peripheral.ask _).bind fun received => ?_
      cases received with
      | bytes data => exact .ite (.pure _) (ih _)
      | timeout => exact .pure _
      | failed => exact .pure _

theorem otaGithubCheck_peripheral : Peripheral (otaGithubCheck pf env) := by
  refine (Peripheral.ask _).bind fun err => .ite (.pure _) ?_
  refine (Peripheral.ask _).bind fun headers => .ite (.pure _) ?_
  exact (readResponse_peripheral env _ _).bind fun buffer => .ite (.pure _) (.pure _)

theorem otaGithubApply_peripheral (url : CString) : Peripheral (otaGithubApply env url) := by
  refine (Peripheral.emit _).bind fun _ => (Peripheral.ask _).bind fun err => .ite (.pure _) ?_
  refine (Peripheral.ask _).bind fun err => .ite ((Peripheral.emit _).bind fun _ => .pure _) ?_
  exact (Peripheral.ask _).bind fun err =>
    .ite (.pure _) ((Peripheral.emit _).bind fun _ => .pure _)

/-! ## The handler bodies -/

theorem resetBody_peripheral : Peripheral (resetBody env) :=
  (gpioSbcReset_peripheral env).bind fun _ => (Peripheral.rejectIf _ _ _).bind fun _ => .pure _

theorem powerRequest_peripheral : Peripheral (powerRequest pf env req) := by
  refine (readBody_peripheral env req 128).bind fun body => ?_
  cases body with
  | failed => exact .sendJsonError _ _
  | absent => exact gpioSbcPowerToggle_peripheral env
  | complete bytes =>
      dsimp only
      cases pf.cJSONParse (ofBuffer bytes) with
      | none => exact .sendJsonError _ _
      | some json =>
          dsimp only
          cases CJson.bool? (json.getObjectItem (cstr "power")) with
          | none => exact .sendJsonError _ _
          | some on => cases on <;> exact powerSet_peripheral env _

theorem powerBody_peripheral : Peripheral (powerBody pf env req) := by
  refine (powerRequest_peripheral pf env req).bind fun err => ?_
  cases err with
  | ok => exact (Peripheral.read _).bind fun _ => .pure _
  | _ => exact .sendJsonError _ _

theorem otaLoop_peripheral : ∀ (fuel totalRead timeouts : ℕ),
    Peripheral (otaLoop env req fuel totalRead timeouts) := by
  intro fuel
  induction fuel with
  | zero => intro totalRead timeouts; exact .pure _
  | succ fuel ih =>
      intro totalRead timeouts
      refine .ite (.pure _) ((Peripheral.ask _).bind fun received => ?_)
      cases received with
      | timeout => exact .ite (ih _ _) (.pure _)
      | failed => exact .pure _
      | bytes data =>
          refine .ite (.pure _) ((Peripheral.emit _).bind fun _ =>
            (Peripheral.ask _).bind fun err => ?_)
          exact .ite (.pure _) (ih _ _)

theorem espRestart_peripheral : Peripheral espRestart := (Peripheral.emit _).bind fun _ => .stop _

theorem otaBody_peripheral : Peripheral (otaBody env req) := by
  refine (Peripheral.ask _).bind fun partition => (Peripheral.rejectIf _ _ _).bind fun _ => ?_
  refine (Peripheral.emit _).bind fun _ => (Peripheral.ask _).bind fun err => ?_
  refine (Peripheral.rejectIf _ _ _).bind fun _ => ?_
  refine (otaLoop_peripheral env req _ _ _).bind fun failed => ?_
  refine .ite ((Peripheral.emit _).bind fun _ => .sendJsonError _ _) ?_
  refine (Peripheral.emit _).bind fun _ => (Peripheral.ask _).bind fun err => ?_
  refine (Peripheral.rejectIf _ _ _).bind fun _ => (Peripheral.emit _).bind fun _ => ?_
  exact (Peripheral.ask _).bind fun err => (Peripheral.rejectIf _ _ _).bind fun _ =>
    espRestart_peripheral

theorem certsSave_peripheral (edit : TlsCerts → TlsCerts) : Peripheral (certsSave env edit) := by
  refine (Peripheral.ask _).bind fun err => .update fun board => ?_
  split <;> rfl

theorem checkPair_peripheral (cert key : CString) : Peripheral (checkPair pf cert key) :=
  (Peripheral.rejectIf _ _ _).bind fun _ => (Peripheral.rejectIf _ _ _).bind fun _ =>
    (Peripheral.rejectIf _ _ _).bind fun _ => .rejectIf _ _ _

theorem tlsBody_peripheral : Peripheral (tlsBody pf env req) := by
  refine (Peripheral.rejectIf _ _ _).bind fun _ => (Peripheral.ask _).bind fun buf => ?_
  refine (Peripheral.rejectIf _ _ _).bind fun _ =>
    (readBody_peripheral env req _).bind fun body => ?_
  cases body with
  | absent => exact .sendJsonError _ _
  | failed => exact .sendJsonError _ _
  | complete bytes =>
      dsimp only
      cases pf.cJSONParse (ofBuffer bytes) with
      | none => exact .sendJsonError _ _
      | some json =>
          dsimp only
          split
          next cert key _ _ =>
            refine (checkPair_peripheral pf cert key).bind fun _ =>
              (Peripheral.ask _).bind fun err => ?_
            refine (Peripheral.rejectIf _ _ _).bind fun _ => ?_
            refine (certsSave_peripheral env _).bind fun _ => ?_
            refine (certsSave_peripheral env _).bind fun _ => (Peripheral.ask _).bind fun err => ?_
            exact (Peripheral.rejectIf _ _ _).bind fun _ => .pure _
          next => exact .sendJsonError _ _

theorem otaCheckBody_peripheral : Peripheral (otaCheckBody pf env) := by
  refine (otaGithubCheck_peripheral pf env).bind fun result => ?_
  cases result with
  | error err => exact .sendJsonError _ _
  | ok release => exact .pure _

theorem otaGithubBody_peripheral : Peripheral (otaGithubBody pf env) := by
  refine (otaGithubCheck_peripheral pf env).bind fun result => ?_
  cases result with
  | error err => exact .sendJsonError _ _
  | ok release =>
      refine (Peripheral.rejectIf _ _ _).bind fun _ => ?_
      refine (otaGithubApply_peripheral env _).bind fun err => ?_
      exact (Peripheral.rejectIf _ _ _).bind fun _ => espRestart_peripheral

end

end WebTerminal
