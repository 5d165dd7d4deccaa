import DocHints.Docstring.ReturnField

/-!
# Editing sessions

A session edits one docstring by a series of requests.  It remembers the place
for the type of the result from the request that asked for it to the request
that uses it.
-/

namespace DocHints.Docstring

open Rest (Block)

inductive Request where
  | findParam (name : String)
  | injectType (name type : String) (position : Int)
  | addParam (name : String)
  | existingType (name : String)
  | returnPlace
  | injectReturn (type : String) (ownField : Bool) (place : Option ReturnPlace)
  | appendDefault (position : Int) (hint default : String) (after : Bool)
  | argument (line : String)
  | removeType (line : String)
  | underscored (name : String)
  deriving Repr

inductive Reply where
  | done
  | index (index : Option Nat)
  | text (text : Option String)
  | existing (line : String) (found : Bool)
  | place (place : ReturnPlace)
  | named (name : String) (index : Option Nat)
  deriving Repr

structure Session where
  draft : Draft
  place : Option ReturnPlace
  deriving Repr, Inhabited

namespace Session

def ofLines (lines : Lines) : Session :=
  ⟨Draft.ofLines lines, none⟩

def withLines (session : Session) (lines : Lines) : Session :=
  { session with draft := session.draft.withLines lines }

def inFields (session : Session) : Session :=
  { session with draft := session.draft.inFields }

def edited (session : Session) (result : Except Failure Lines) :
    Session × Except Failure Reply :=
  match result with
  | .ok lines => (session.withLines lines, .ok .done)
  | .error failure => (session, .error failure)

/-- Fulfils one request; a failed one may still have converted the sections. -/
def perform (blocksOf : Lines → Except Failure (List Block)) (session : Session) :
    Request → Session × Except Failure Reply
  | .findParam name =>
    let session := session.inFields
    (session, .ok (.index (findParam? session.draft.lines name)))
  | .injectType name type position =>
    (session.withLines (injectType session.draft.lines name type position), .ok .done)
  | .addParam name =>
    let session := session.inFields
    let (lines, index) := addParam session.draft.lines name
    (session.withLines lines, .ok (.index (some index)))
  | .existingType name =>
    match existingType? session.draft.lines name with
    | some line => (session, .ok (.existing line true))
    | none => (session, .ok (.existing (typeField name) false))
  | .returnPlace =>
    let session := session.inFields
    match returnPlace blocksOf session.draft.lines with
    | .ok (lines, place) =>
      ({ session.withLines lines with place := some place }, .ok (.place place))
    | .error failure => (session, .error failure)
  | .injectReturn type ownField given =>
    match given <|> session.place with
    | some place =>
      session.edited (injectReturn session.draft.lines type place ownField)
    | none => (session, .error (.missingAttribute "'NoneType' object" "insert_index"))
  | .appendDefault position hint default after =>
    if after then
      match appendDefault session.draft.lines position default with
      | .ok lines => (session.withLines lines, .ok (.text (some hint)))
      | .error failure => (session, .error failure)
    else (session, .ok (.text (some (hint ++ default))))
  | .argument line => (session, .ok (.text (argumentOf? line)))
  | .removeType line =>
    match removeType session.draft.lines line with
    | .ok (lines, index) => (session.withLines lines, .ok (.index (some index)))
    | .error failure => (session, .error failure)
  | .underscored name =>
    let session := session.inFields
    let (lines, found, index) := findUnderscored session.draft.lines name
    (session.withLines lines, .ok (.named found index))

end Session

end DocHints.Docstring
