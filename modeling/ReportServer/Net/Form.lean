import ReportServer.Net.Percent
import ReportServer.Text.Split

/-!
# Forms

The query of an address is a form: pairs of a name and a value, with ampersands between pairs and
an equals sign between the two. A plus is a blank, percent signs are decoded, and bytes that are
not UTF-8 become replacement characters. Empty pairs are dropped.
-/

namespace ReportServer.Net

/-- Write a blank for every plus. -/
def plusToBlank (bytes : List UInt8) : List UInt8 := bytes.map fun b => if b = 0x2B then 0x20 else b

/-- The text of a name or a value. -/
def formText (bytes : List UInt8) : String := Text.ofUtf8Lossy (percentDecode (plusToBlank bytes))

/-- A pair: what stands before and after the first equals sign. -/
def formPair (bytes : List UInt8) : String × String :=
  (formText (bytes.takeWhile (· != 0x3D)), formText ((bytes.dropWhile (· != 0x3D)).drop 1))

/-- The pairs of a form. -/
def formPairs (query : String) : List (String × String) :=
  ((Text.splitWhere (· == 0x26) (Text.utf8 query)).filter (!·.isEmpty)).map formPair

end ReportServer.Net
