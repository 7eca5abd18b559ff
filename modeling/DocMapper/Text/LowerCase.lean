import DocMapper.Text.Case

/-!
# Lower case of a text

Every character goes to its lower case; a capital sigma at the end of a word becomes the final
form of the letter. A word ends where, past characters that do not count, no cased letter follows.
-/

namespace DocMapper.Text

def startsCased (chars : List Char) : Bool :=
  match chars.dropWhile isCaseIgnorable with
  | c :: _ => isCased c
  | [] => false

/-- Lowers `chars`, of which `before` stands in front, nearest character first. -/
def lowerAfter (before : List Char) : List Char → List Char
  | [] => []
  | c :: rest =>
    let lowered :=
      if c.toNat = 0x3A3 then
        if startsCased before && !startsCased rest then [Char.ofNat 0x3C2] else [Char.ofNat 0x3C3]
      else lowerOf c
    lowered ++ lowerAfter (c :: before) rest

def toLower (text : String) : String :=
  String.ofList (lowerAfter [] text.toList)

end DocMapper.Text
