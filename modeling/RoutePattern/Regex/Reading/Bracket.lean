import RoutePattern.Regex.Reading.Escape

/-! # Reading bracketed sets

* `Reader.openBracket` — the opening bracket.
* `Reader.takeInBracket` — one token between the brackets.
* `Reader.closeBracket` — the finished set becomes a part.

A closing bracket that stands first is a member. A hyphen between two members makes a range, and
one before the closing bracket is a member.
-/

namespace RoutePattern.Regex

namespace SetDraft

def add (draft : SetDraft) (element : Member) : SetDraft :=
  { draft with members := element :: draft.members, phase := .member }

end SetDraft

namespace Reader

def openBracket (reader : Reader) : Reader :=
  { reader with
    mode := .bracket
      { start := reader.position - 1, complement := false, members := [], phase := .opening } }

def closeBracket (reader : Reader) (draft : SetDraft) : Reader :=
  reader.push (.one (.ofMembers draft.complement draft.members.reverse reader.flags.folding))

def beginMember (reader : Reader) (draft : SetDraft) (token : Token) : Except Fault Reader :=
  match token with
  | .escaped c => reader.beginSetEscape draft c
  | .plain c => reader.acceptMember draft (.code c.toNat) [c]

/-- The token begins a member or, if the set is not empty, closes it. -/
def takeMember (reader : Reader) (draft : SetDraft) (token : Token) : Except Fault Reader :=
  if token = .plain ']' && !draft.members.isEmpty then .ok (reader.closeBracket draft)
  else reader.beginMember { draft with phase := .member } token

def takeInBracket (reader : Reader) (draft : SetDraft) (token : Token) : Except Fault Reader :=
  match draft.phase with
  | .opening =>
    if token = .plain '^' then
      .ok { reader with mode := .bracket { draft with complement := true, phase := .member } }
    else reader.takeMember draft token
  | .member => reader.takeMember draft token
  | .read element written =>
    if token = .plain '-' then
      .ok { reader with mode := .bracket { draft with phase := .rangeEnd element written } }
    else reader.takeMember (draft.add element) token
  | .rangeEnd element _ =>
    if token = .plain ']' then
      .ok (reader.closeBracket ((draft.add element).add (.code 0x2d)))
    else reader.beginMember draft token

end Reader

end RoutePattern.Regex
