import CompileDesk.Terminal.Message

/-! # Banners

A section of results stands between a banner with its name and a rule of the same width.
-/

namespace CompileDesk

namespace Terminal

def pageWidth : Nat := 80

def bannerLine (name : String) : String :=
  let remaining := pageWidth - (Text.width name + 2)
  Text.repeated (remaining / 2) '━' ++ " " ++ name ++ " " ++
    Text.repeated (remaining - remaining / 2) '━'

def ruleLine : String := Text.repeated pageWidth '━'

end Terminal

def Transcript.banner (t : Transcript) (colour name : String) : Transcript :=
  t.line (colour ++ Terminal.bold ++ Terminal.bannerLine name ++ Terminal.reset)

def Transcript.footer (t : Transcript) (colour : String) : Transcript :=
  (t.line (colour ++ Terminal.bold ++ Terminal.ruleLine ++ Terminal.reset)).line ""

end CompileDesk
