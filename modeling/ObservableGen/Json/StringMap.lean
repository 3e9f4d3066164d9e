import ObservableGen.Json.Text
set_option autoImplicit false

/-!
Flat JSON objects: every value is a string. The entries keep the order in which their keys stand
first; a repeated key takes its last value.
-/
namespace ObservableGen.Json

abbrev Entries := List (String × String)

-- Gives a key its value, in the place it already has or else at the end.
def put (entries : Entries) (key value : String) : Entries :=
  if entries.any fun entry => entry.1 == key then
    entries.map fun entry => if entry.1 == key then (key, value) else entry
  else entries ++ [(key, value)]

theorem skip_space_length_le (text : List Char) : (skipSpace text).length ≤ text.length :=
  (List.dropWhile_suffix isSpace).length_le

-- A member from behind its key's opening quote up to its value's closing one.
def member (text : List Char) : Except Fault ((String × String) × List Char) :=
  match stringBody text with
  | .error fault => .error fault
  | .ok (key, rest) =>
    match skipSpace rest with
    | [] => .error .truncated
    | ':' :: rest =>
      match skipSpace rest with
      | '"' :: rest =>
        (stringBody rest).map fun value => ((String.ofList key, String.ofList value.1), value.2)
      | other => .error (faultOfValue other)
    | _ => .error .malformed

theorem member_shorter (text rest : List Char) (entry : String × String)
    (read : member text = .ok (entry, rest)) : rest.length < text.length := by
  unfold member at read
  split at read
  · cases read
  · rename_i key afterKey keyRead
    have keyShorter := string_body_shorter _ _ _ keyRead
    split at read
    · cases read
    · rename_i afterColon colon
      have colonShorter := skip_space_length_le afterKey
      rw [colon] at colonShorter
      split at read
      · rename_i quoted quote
        have quoteShorter := skip_space_length_le afterColon
        rw [quote] at quoteShorter
        cases value : stringBody quoted with
        | error fault => simp [value, Except.map] at read
        | ok result =>
          have valueShorter := string_body_shorter _ _ _ value
          simp only [value, Except.map, Except.ok.injEq, Prod.mk.injEq] at read
          rw [← read.2]
          simp only [List.length_cons] at colonShorter quoteShorter
          omega
      · cases read
    · cases read

def membersFrom (entries : Entries) (text : List Char) : Except Fault (Entries × List Char) :=
  match _place : skipSpace text with
  | [] => .error .truncated
  | '"' :: rest =>
    match _read : member rest with
    | .error fault => .error fault
    | .ok ((key, value), behind) =>
      match _next : skipSpace behind with
      | [] => .error .truncated
      | ',' :: further => membersFrom (put entries key value) further
      | '\x7d' :: further => .ok (put entries key value, further)
      | _ => .error .malformed
  | _ => .error .malformed
termination_by text.length
decreasing_by
  have first := skip_space_length_le text
  rw [_place] at first
  have second := member_shorter _ _ _ _read
  have third := skip_space_length_le behind
  rw [_next] at third
  simp only [List.length_cons] at first third
  omega

def members (text : List Char) : Except Fault (Entries × List Char) :=
  match skipSpace text with
  | [] => .error .truncated
  | '\x7d' :: rest => .ok ([], rest)
  | rest => membersFrom [] rest

-- Reads a document that is one flat object; nothing but white space stands around it.
def readStringMap (document : String) : Except Fault Entries :=
  match skipSpace document.toList with
  | '\x7b' :: rest =>
    match members rest with
    | .error fault => .error fault
    | .ok (entries, rest) => if skipSpace rest = [] then .ok entries else .error .malformed
  | other => .error (faultOfValue other)

end ObservableGen.Json
