import Switchboard.Json.Basic
import Switchboard.Json.Token

/-! # JSON documents

A document is a value with its literals as written: numbers keep their digits and strings their
escapes. `parse` reads exactly one document from a text, keeping the open lists and objects on a
stack, so nesting of any depth is read. `value?` gives the value that a document denotes, if its
numbers are integers and its strings have a reading. -/

namespace Switchboard.Json

/-- A JSON value as it is written. -/
inductive Document where
  | null
  | bool (b : Bool)
  | number (literal : List Char)
  | text (body : List Char)
  | list (items : List Document)
  | record (members : List (List Char × Document))

namespace Document

instance : Inhabited Document := ⟨.null⟩

/-- A list or object that is still open, with what it holds so far in reverse. -/
inductive Open where
  | list (items : List Document)
  | record (members : List (List Char × Document)) (name : List Char)

/-- What the text read so far admits next. -/
inductive Expecting where
  /-- A value. -/
  | value
  /-- A value, or the end of a list that has just been opened. -/
  | item
  /-- The name of a member. -/
  | name (members : List (List Char × Document))
  /-- The name of a member, or the end of an object that has just been opened. -/
  | member
  /-- The colon after a name. -/
  | colon (members : List (List Char × Document)) (name : List Char)
  /-- What follows a value inside the open lists and objects. -/
  | more (done : Document)

/-- Reads the tokens that are left, given what may come next and the open lists and objects,
innermost first. -/
def parseFrom : Expecting → List Open → List Token → Option Document
  | .more done, [], [] => some done
  | _, _, [] => none
  | .value, ctx, t :: rest => match t with
    | .null => parseFrom (.more .null) ctx rest
    | .bool b => parseFrom (.more (.bool b)) ctx rest
    | .number l => parseFrom (.more (.number l)) ctx rest
    | .text s => parseFrom (.more (.text s)) ctx rest
    | .openBracket => parseFrom .item ctx rest
    | .openBrace => parseFrom .member ctx rest
    | _ => none
  | .item, ctx, t :: rest => match t with
    | .closeBracket => parseFrom (.more (.list [])) ctx rest
    | .null => parseFrom (.more .null) (.list [] :: ctx) rest
    | .bool b => parseFrom (.more (.bool b)) (.list [] :: ctx) rest
    | .number l => parseFrom (.more (.number l)) (.list [] :: ctx) rest
    | .text s => parseFrom (.more (.text s)) (.list [] :: ctx) rest
    | .openBracket => parseFrom .item (.list [] :: ctx) rest
    | .openBrace => parseFrom .member (.list [] :: ctx) rest
    | _ => none
  | .name members, ctx, t :: rest => match t with
    | .text s => parseFrom (.colon members s) ctx rest
    | _ => none
  | .member, ctx, t :: rest => match t with
    | .closeBrace => parseFrom (.more (.record [])) ctx rest
    | .text s => parseFrom (.colon [] s) ctx rest
    | _ => none
  | .colon members name, ctx, t :: rest => match t with
    | .colon => parseFrom .value (.record members name :: ctx) rest
    | _ => none
  | .more _, [], _ :: _ => none
  | .more done, .list items :: ctx, t :: rest => match t with
    | .comma => parseFrom .value (.list (done :: items) :: ctx) rest
    | .closeBracket => parseFrom (.more (.list (done :: items).reverse)) ctx rest
    | _ => none
  | .more done, .record members name :: ctx, t :: rest => match t with
    | .comma => parseFrom (.name ((name, done) :: members)) ctx rest
    | .closeBrace => parseFrom (.more (.record ((name, done) :: members).reverse)) ctx rest
    | _ => none

/-- The one document that a text holds, blanks around it aside. -/
def parse (s : List Char) : Option Document :=
  match Token.scan s with
  | some tokens => parseFrom .value [] tokens
  | none => none

mutual

/-- The value that a document denotes. -/
def value? : Document → Option Json
  | .null => some .null
  | .bool b => some (.bool b)
  | .number l => (NumberLiteral.integer? l).map .number
  | .text s => (Text.decode s).map fun cs => .text (String.ofList cs)
  | .list items => (values? items).map .list
  | .record members => (members? members).map .record

/-- The values of the items of a list. -/
def values? : List Document → Option (List Json)
  | [] => some []
  | d :: rest => match value? d, values? rest with
    | some x, some xs => some (x :: xs)
    | _, _ => none

/-- The names and values of the members of an object. -/
def members? : List (List Char × Document) → Option (List (String × Json))
  | [] => some []
  | (name, d) :: rest => match Text.decode name, value? d, members? rest with
    | some n, some x, some xs => some ((String.ofList n, x) :: xs)
    | _, _, _ => none

end

end Document

/-- The value that a text denotes. -/
def read? (s : List Char) : Option Json :=
  match Document.parse s with
  | some d => d.value?
  | none => none

end Switchboard.Json
