import UploadTemplate.Upload.Result

/-!
# Uploads

One upload compiles a request, sends it and reads the links from the response. At most one request
is sent, and none if it does not compile.
-/

namespace UploadTemplate

/-- How an upload ended, where `τ` is what can go wrong on the way. -/
inductive Upload (τ : Type) where
  /-- There was no request to send. -/
  | refused (error : RequestError)
  /-- The request was sent, and nothing came back. -/
  | unanswered (sent : Request) (error : τ)
  | answered (sent : Request) (result : UploadResult)

namespace Upload

variable {τ : Type}

def sent? : Upload τ → Option Request
  | refused _ => none
  | unanswered sent _ => some sent
  | answered sent _ => some sent

end Upload

namespace Session

/-- A computation on the draws of a session. -/
def onDraws {α : Type} (x : StateM Draws α) : StateM Session α :=
  modifyGet fun s =>
    let (a, draws) := x.run s.draws
    (a, { s with draws := draws })

/-- A computation on a session among others that may do more. -/
def lifted {m : Type → Type} [Monad m] {α : Type} (x : StateM Session α) : StateT Session m α :=
  fun s => pure (x.run s)

theorem run_lifted {m : Type → Type} [Monad m] {α : Type} (x : StateM Session α) (s : Session) :
    (lifted (m := m) x).run s = pure (x.run s) := rfl

end Session

namespace Compiler

/-- Uploads a text or a file, where `send` sends requests and answers them. -/
def uploadThrough {m : Type → Type} [Monad m] {τ : Type} (c : Compiler) (d : Destination)
    (fileName input : Option Text) (send : Request → m (Except τ Response)) :
    StateT Session m (Upload τ) := do
  let context : Context := ⟨fileName, input, none⟩
  match ← Session.lifted (c.request d context).run with
  | .error e => return .refused e
  | .ok request =>
    match ← StateT.lift (send request) with
    | .error e => return .unanswered request e
    | .ok response =>
      return .answered request
        (← Session.lifted (Session.onDraws (c.result d response context)))

/-- Uploads a text or a file, where `send` answers requests and does nothing else. -/
def upload {τ : Type} (c : Compiler) (d : Destination) (fileName input : Option Text)
    (send : Request → Except τ Response) : StateM Session (Upload τ) :=
  c.uploadThrough (m := Id) d fileName input send

end Compiler

end UploadTemplate
