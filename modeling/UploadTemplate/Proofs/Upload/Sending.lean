import UploadTemplate.Proofs.Upload.Counter

/-!
# Many uploads over one transport

A compiler uploads one thing after the other over a transport that may answer what it likes, or
nothing. What has been sent is kept, so that it can be told what each upload sends.

- `Compiler.uploadAll`: the uploads of a row of tasks.
- `Upload.Goes`: how one upload goes, told by the request that is built.
- `Compiler.uploadAll_row`: how each upload of a row goes.
-/

namespace UploadTemplate

/-- What is sent at once: a request, and the name and the bytes of the file that is uploaded. -/
structure Parcel where
  request : Request
  file : Option (Text × Bytes)

/-- Answers a parcel or fails, where `τ` is what can go wrong. What it does may depend on all
that has been sent before. -/
structure Transport (τ : Type) where
  answer : List Parcel → Parcel → Except τ Response

/-- One thing to upload, and the clock, environment and files at that time. -/
structure UploadTask where
  surroundings : Surroundings
  destination : Destination
  file : Option (Text × Bytes)
  input : Option Text

variable {τ : Type}

/-- Sends a request along with a file, and keeps what it has sent. -/
def Transport.send (t : Transport τ) (file : Option (Text × Bytes)) (request : Request) :
    StateM (List Parcel) (Except τ Response) :=
  modifyGet fun sent => (t.answer sent ⟨request, file⟩, sent ++ [⟨request, file⟩])

/-- What the templates of a destination can read before there is a response. -/
def UploadTask.context (task : UploadTask) : Context :=
  ⟨task.file.map (·.1), task.input, none⟩

namespace Compiler

/-- The request for a task, and the session that building it leaves. -/
def built (c : Compiler) (task : UploadTask) (s : Session) :
    Except RequestError Request × Session :=
  ((c.within task.surroundings).request task.destination task.context).run.run s

/-- The result that is read from a response, and the draws that are left. -/
def extracted (c : Compiler) (task : UploadTask) (response : Response) (draws : Draws) :
    UploadResult × Draws :=
  ((c.within task.surroundings).result task.destination response task.context).run draws

def uploadTask (c : Compiler) (t : Transport τ) (task : UploadTask) :
    StateT Session (StateM (List Parcel)) (Upload τ) :=
  (c.within task.surroundings).uploadThrough task.destination (task.file.map (·.1)) task.input
    (t.send task.file)

/-- Uploads one thing after the other. -/
def uploadAll (c : Compiler) (t : Transport τ) (tasks : List UploadTask) :
    StateT Session (StateM (List Parcel)) (List (Upload τ)) :=
  tasks.mapM (c.uploadTask t)

end Compiler

/-! ### One upload -/

namespace Upload

/-- How the upload of a task goes, where `sent` is what has been sent before it and `sentAfter`
what has been sent after it. -/
structure Goes (c : Compiler) (t : Transport τ) (task : UploadTask) (before : Session)
    (sent : List Parcel) (outcome : Upload τ) (after : Session) (sentAfter : List Parcel) :
    Prop where
  /-- Nothing is sent but the request that is built, once and with the file. -/
  sent_eq : sentAfter =
    sent ++ ((c.built task before).1.toOption.map (Parcel.mk · task.file)).toList
  /-- The outcome tells of it. -/
  sent?_eq : outcome.sent? = (c.built task before).1.toOption
  refused : ∀ e, (c.built task before).1 = .error e →
    outcome = .refused e ∧ after = (c.built task before).2
  /-- A request without an answer has no result, and draws nothing more. -/
  unanswered : ∀ request e, (c.built task before).1 = .ok request →
    t.answer sent ⟨request, task.file⟩ = .error e →
    outcome = .unanswered request e ∧ after = (c.built task before).2
  answered : ∀ request response, (c.built task before).1 = .ok request →
    t.answer sent ⟨request, task.file⟩ = .ok response →
    outcome = .answered request
        (c.extracted task response (c.built task before).2.draws).1 ∧
      after = { (c.built task before).2 with
        draws := (c.extracted task response (c.built task before).2.draws).2 }
  /-- The counter stands where the request has left it, whatever the transport does. -/
  counter_eq : after.counter = (c.built task before).2.counter

/-- How a row of uploads goes, each from what the one before it leaves. -/
inductive Row (c : Compiler) (t : Transport τ) :
    List UploadTask → Session → List Parcel → List (Upload τ) → Session → List Parcel → Prop where
  | nil (s : Session) (sent : List Parcel) : Row c t [] s sent [] s sent
  | cons {task : UploadTask} {tasks : List UploadTask} {before between after : Session}
      {sent sentBetween sentAfter : List Parcel} {outcome : Upload τ}
      {outcomes : List (Upload τ)} (h : Goes c t task before sent outcome between sentBetween)
      (rest : Row c t tasks between sentBetween outcomes after sentAfter) :
      Row c t (task :: tasks) before sent (outcome :: outcomes) after sentAfter

/-- A row of uploads sends what its outcomes tell, in their order and each with its own file. -/
theorem Row.sent_eq {c : Compiler} {t : Transport τ} {tasks : List UploadTask}
    {before after : Session} {sent sentAfter : List Parcel} {outcomes : List (Upload τ)}
    (h : Row c t tasks before sent outcomes after sentAfter) :
    sentAfter = sent ++
      (tasks.zip outcomes).filterMap fun (task, o) => o.sent?.map (Parcel.mk · task.file) := by
  induction h with
  | nil s sent => exact (List.append_nil sent).symm
  | @cons task tasks _ _ _ _ _ _ outcome outcomes hgoes _ ih =>
    rw [ih, hgoes.sent_eq, ← hgoes.sent?_eq, List.zip_cons_cons, List.append_assoc]
    congr 1
    cases outcome <;> rfl

end Upload

namespace Compiler

open Upload

variable (c : Compiler) (t : Transport τ)

/-- Once the request is built, an upload is what the transport makes of it. -/
theorem run_uploadTask (task : UploadTask) (s : Session) (sent : List Parcel) :
    ((c.uploadTask t task).run s).run sent =
      match c.built task s with
      | (.error e, built) => ((.refused e, built), sent)
      | (.ok request, built) =>
        match t.answer sent ⟨request, task.file⟩ with
        | .error e => ((.unanswered request e, built), sent ++ [⟨request, task.file⟩])
        | .ok response =>
          ((.answered request (c.extracted task response built.draws).1,
            { built with draws := (c.extracted task response built.draws).2 }),
            sent ++ [⟨request, task.file⟩]) := by
  unfold uploadTask
  rw [run_uploadThrough]
  change StateT.run (match c.built task s with
    | (.error e, built) => _
    | (.ok request, built) => _) sent = _
  rcases c.built task s with ⟨e | request, built⟩
  · rfl
  · have hsend : (t.send task.file request).run sent =
        (t.answer sent ⟨request, task.file⟩, sent ++ [⟨request, task.file⟩]) := rfl
    simp only [StateT.run_bind, hsend]
    cases t.answer sent ⟨request, task.file⟩ <;> rfl

/-- An upload goes as its request and the transport have it. -/
theorem goes_of_run {task : UploadTask} {before after : Session} {sent sentAfter : List Parcel}
    {outcome : Upload τ}
    (h : ((c.uploadTask t task).run before).run sent = ((outcome, after), sentAfter)) :
    Goes c t task before sent outcome after sentAfter := by
  rw [run_uploadTask] at h
  rcases hbuilt : c.built task before with ⟨e | request, built⟩
  · simp only [hbuilt] at h
    cases h
    exact {
      sent_eq := by simp [hbuilt, Except.toOption]
      sent?_eq := by rw [hbuilt]; rfl
      refused := by simp [hbuilt]
      unanswered := by simp [hbuilt]
      answered := by simp [hbuilt]
      counter_eq := by rw [hbuilt] }
  · cases hanswer : t.answer sent ⟨request, task.file⟩ with
    | error e =>
      simp only [hbuilt, hanswer] at h
      cases h
      exact {
        sent_eq := by simp [hbuilt, Except.toOption]
        sent?_eq := by rw [hbuilt]; rfl
        refused := by simp [hbuilt]
        unanswered := by grind
        answered := by grind
        counter_eq := by rw [hbuilt] }
    | ok response =>
      simp only [hbuilt, hanswer] at h
      cases h
      exact {
        sent_eq := by simp [hbuilt, Except.toOption]
        sent?_eq := by rw [hbuilt]; rfl
        refused := by simp [hbuilt]
        unanswered := by grind
        answered := by grind
        counter_eq := by rw [hbuilt] }

theorem row_uploadAll (tasks : List UploadTask) (s : Session) (sent : List Parcel) :
    let uploads := ((c.uploadAll t tasks).run s).run sent
    Row c t tasks s sent uploads.1.1 uploads.1.2 uploads.2 := by
  induction tasks generalizing s sent with
  | nil => exact .nil s sent
  | cons task tasks ih =>
    have hcons : ((c.uploadAll t (task :: tasks)).run s).run sent =
        let upload := ((c.uploadTask t task).run s).run sent
        let rest := ((c.uploadAll t tasks).run upload.1.2).run upload.2
        ((upload.1.1 :: rest.1.1, rest.1.2), rest.2) := by
      unfold uploadAll
      rw [List.mapM_cons]
      rfl
    rw [hcons]
    exact .cons (c.goes_of_run t rfl) (ih _ _)

/-- However the transport answers or fails, every upload of a row sends at most one request: the
one that is built on the session that the uploads before it leave, and only if that goes well. The
error of an upload is that of its request or that of the transport; without an error its result is
the one that the response gives with the name of its own file and its own input. The counter goes
where the request takes it. So all that is sent is what the outcomes tell. -/
theorem uploadAll_row (tasks : List UploadTask) (s : Session) (sent : List Parcel) :
    let uploads := ((c.uploadAll t tasks).run s).run sent
    Row c t tasks s sent uploads.1.1 uploads.1.2 uploads.2 ∧
      uploads.2 = sent ++ (tasks.zip uploads.1.1).filterMap fun (task, o) =>
        o.sent?.map (Parcel.mk · task.file) :=
  ⟨c.row_uploadAll t tasks s sent, (c.row_uploadAll t tasks s sent).sent_eq⟩

/-- The counter goes on over an upload that has no answer, and over one that is refused. -/
example :
    let c : Compiler := ⟨.empty, .standard, .standard ⟨.empty, ⟨[]⟩, ⟨1711375629, 0, 0⟩⟩⟩
    let upTo (url : String) : UploadTask :=
      ⟨⟨.empty, ⟨[]⟩, ⟨1711375629, 0, 0⟩⟩, { requestUrl := url.toList }, none, none⟩
    let t : Transport Unit :=
      ⟨fun sent _ => if sent.isEmpty then .error () else .ok ⟨200, .empty, "ok".toList, [], true⟩⟩
    let uploads := ((c.uploadAll t [upTo "a.b/%i", upTo "a.b/%i/\x7bnope\x7d", upTo "a.b/%i"]).run
      ⟨0, ⟨fun _ => 0, 0⟩⟩).run []
    uploads.2.map (·.request.url) = ["https://a.b/1".toList, "https://a.b/3".toList] := by
  decide +kernel

end Compiler

end UploadTemplate
