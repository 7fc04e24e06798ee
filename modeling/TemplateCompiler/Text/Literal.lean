import TemplateCompiler.Text.Quoted

namespace TemplateCompiler.Text

def shortEscape? (c : Char) : Option Char :=
  if c = '"' then some '"'
  else if c = '\\' then some '\\'
  else if c = '\n' then some 'n'
  else if c = '\r' then some 'r'
  else if c = '\t' then some 't'
  else if c = '\x08' then some 'b'
  else if c = '\x0c' then some 'f'
  else none

def unitEscape (unit : Nat) : List Char := '\\' :: 'u' :: hex 4 unit

def utf16Units (c : Char) : List Nat :=
  if c.toNat < 0x10000 then [c.toNat]
  else [0xd800 + (c.toNat - 0x10000) / 0x400, 0xdc00 + (c.toNat - 0x10000) % 0x400]

def escapeLiteral (c : Char) : List Char :=
  match shortEscape? c with
  | some letter => ['\\', letter]
  | none => if ' ' ≤ c && c ≤ '~' then [c] else (utf16Units c).flatMap unitEscape

def literalBody (cs : List Char) : List Char := cs.flatMap escapeLiteral

def literal (s : String) : String := String.ofList ('"' :: literalBody s.toList ++ ['"'])

end TemplateCompiler.Text
