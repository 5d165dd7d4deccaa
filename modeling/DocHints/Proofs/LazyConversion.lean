import DocHints.Docstring.Session

/-!
# Sections are converted once

A docstring in sections is converted at the first request that needs its fields.
Nothing shows that this was not done before the session began: a session that
starts with such a request goes on as a session on the converted lines, whose
layout is never asked about again.
-/

namespace DocHints.Docstring

open Rest (Block)

def Request.needsFields : Request → Bool
  | .findParam _ => true
  | .addParam _ => true
  | .returnPlace => true
  | .underscored _ => true
  | _ => false

def Layout.Settled (layout : Layout) : Prop :=
  layout ≠ .sections false

instance (layout : Layout) : Decidable layout.Settled :=
  inferInstanceAs (Decidable (layout ≠ .sections false))

namespace Session

/--
What a session shows request by request: each reply or failure, and the lines
after it.
-/
def transcript (blocksOf : Lines → Except Failure (List Block)) (session : Session) :
    List Request → List (Except Failure Reply × Lines)
  | [] => []
  | request :: rest =>
    let (next, reply) := session.perform blocksOf request
    (reply, next.draft.lines) :: next.transcript blocksOf rest

def laidOut (session : Session) (layout : Layout) : Session :=
  { session with draft := { session.draft with layout := layout } }

section

variable (blocksOf : Lines → Except Failure (List Block)) {session : Session}

theorem inFields_of_settled (settled : session.draft.layout.Settled) :
    session.inFields = session := by
  obtain ⟨⟨layout, lines⟩, place⟩ := session
  cases layout with
  | fields => rfl
  | sections converted =>
      cases converted with
      | false => exact absurd rfl settled
      | true => rfl

theorem settled_inFields (session : Session) :
    session.inFields.draft.layout.Settled := by
  obtain ⟨⟨layout, lines⟩, place⟩ := session
  cases layout with
  | fields => exact (by decide : Layout.fields.Settled)
  | sections converted =>
      cases converted <;> exact (by decide : (Layout.sections true).Settled)

theorem perform_inFields (session : Session) {request : Request}
    (needs : request.needsFields = true) :
    session.perform blocksOf request = session.inFields.perform blocksOf request := by
  have again := inFields_of_settled (settled_inFields session)
  cases request with
  | findParam name => simp only [perform, again]
  | addParam name => simp only [perform, again]
  | returnPlace => simp only [perform, again]
  | underscored name => simp only [perform, again]
  | _ => cases needs

theorem edited_laidOut (layout : Layout) (result : Except Failure Lines) :
    (session.laidOut layout).edited result =
      ((session.edited result).1.laidOut layout, (session.edited result).2) := by
  cases result <;> rfl

/-- Settled drafts are edited alike in every layout, and keep their layout. -/
theorem perform_laidOut (settled : session.draft.layout.Settled) {layout : Layout}
    (settled' : layout.Settled) (request : Request) :
    (session.laidOut layout).perform blocksOf request =
      ((session.perform blocksOf request).1.laidOut layout,
        (session.perform blocksOf request).2) := by
  have here := inFields_of_settled settled
  have there : (session.laidOut layout).inFields = session.laidOut layout :=
    inFields_of_settled settled'
  have lines : (session.laidOut layout).draft.lines = session.draft.lines := rfl
  have place : (session.laidOut layout).place = session.place := rfl
  cases request with
  | findParam name => simp only [perform, here, there, lines]
  | injectType name type position => rfl
  | addParam name =>
      simp only [perform, here, there, lines]
      rfl
  | existingType name =>
      simp only [perform, lines]
      cases existingType? session.draft.lines name <;> rfl
  | returnPlace =>
      simp only [perform, here, there, lines]
      cases Docstring.returnPlace blocksOf session.draft.lines <;> rfl
  | injectReturn type ownField given =>
      simp only [perform, lines, place]
      cases given <|> session.place with
      | none => rfl
      | some place => exact edited_laidOut layout _
  | appendDefault position hint default after =>
      simp only [perform, lines]
      cases after with
      | false => rfl
      | true =>
          cases Docstring.appendDefault session.draft.lines position default <;> rfl
  | argument line => rfl
  | removeType line =>
      simp only [perform, lines]
      cases Docstring.removeType session.draft.lines line <;> rfl
  | underscored name =>
      simp only [perform, here, there, lines]
      rfl

theorem layout_perform (settled : session.draft.layout.Settled) (request : Request) :
    (session.perform blocksOf request).1.draft.layout = session.draft.layout := by
  have same := perform_laidOut blocksOf settled settled request
  exact congrArg (fun result => result.1.draft.layout) same

theorem transcript_laidOut (settled : session.draft.layout.Settled) {layout : Layout}
    (settled' : layout.Settled) (requests : List Request) :
    (session.laidOut layout).transcript blocksOf requests =
      session.transcript blocksOf requests := by
  induction requests generalizing session with
  | nil => rfl
  | cons request rest ih =>
      have settled'' : (session.perform blocksOf request).1.draft.layout.Settled :=
        (layout_perform blocksOf settled request).symm ▸ settled
      simp only [transcript, perform_laidOut blocksOf settled settled']
      rw [ih settled'']
      rfl

end

/--
A session on a docstring in sections that begins with a request for its fields
gives the replies, the failures and the lines that a session on the converted
lines gives, request by request.
-/
theorem sections_converted_at_first_need
    (blocksOf : Lines → Except Failure (List Block)) (lines : Lines)
    (place : Option ReturnPlace) {first : Request}
    (needs : first.needsFields = true) (rest : List Request) :
    (Session.mk ⟨.sections false, lines⟩ place).transcript blocksOf (first :: rest) =
      (Session.mk ⟨.fields, convertSections lines⟩ place).transcript blocksOf
        (first :: rest) := by
  have converted : (Session.mk ⟨.sections false, lines⟩ place).transcript blocksOf
      (first :: rest) =
      (Session.mk ⟨.sections true, convertSections lines⟩ place).transcript blocksOf
        (first :: rest) := by
    simp only [transcript,
      perform_inFields blocksOf ⟨⟨.sections false, lines⟩, place⟩ needs]
    rfl
  have settled : (Layout.sections true).Settled := by decide
  have settled' : Layout.fields.Settled := by decide
  rw [converted]
  exact (transcript_laidOut blocksOf settled settled' (first :: rest)).symm

theorem sections_converted_at_first_need_unplaced :
    (Session.mk ⟨.sections false,
      [":Parameters:", "", "    **x** : int"]⟩ none).transcript (fun _ => .ok [])
        [.addParam "y", .injectReturn "int" true none, .findParam "x"] =
      [(.ok (.index (some 2)), [":param x:", ":type x: int", ":param y:"]),
        (.error (.missingAttribute "'NoneType' object" "insert_index"),
          [":param x:", ":type x: int", ":param y:"]),
        (.ok (.index (some 0)), [":param x:", ":type x: int", ":param y:"])] := by
  have converted : convertSections [":Parameters:", "", "    **x** : int"] =
      [":param x:", ":type x: int"] := by
    have header : Section.ofLine? ":Parameters:" = some .parameters := by decide
    have vacant : Text.isVacant "" = true := by decide
    have entry : Section.ofLine? "    **x** : int" = none ∧
        Text.isVacant "    **x** : int" = false ∧
        entryHead? "    **x** : int" = some ("x", "int") := by decide
    have body : entriesFrom 0 ["    **x** : int"] = [⟨"x", "int", [], 1⟩] := by
      simp [entriesFrom, entry]
    rw [convertSections]
    simp only [header, skipVacant, vacant, body, if_true]
    change Section.parameters.fields [⟨"x", "int", [], 1⟩] ++ convertSections [] = _
    rw [convertSections]
    decide
  have needs : (Request.addParam "y").needsFields = true := rfl
  rw [sections_converted_at_first_need _ _ none needs, converted]
  rfl

end Session

end DocHints.Docstring
