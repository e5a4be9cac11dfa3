/-
Characters of the newest edition.

The sets that patterns ask for stay with the edition before it.  Text that is shown to people knows
the newest one; what it adds is listed here.
-/
import DocumentModel.Text.CharSet

namespace DocumentModel.Text

namespace Recent

def uppercase : CharSet :=
  .ofText "A7CE A7D2 A7D4 16EA0-16EB8"

/-- New small letters, raised ones included. -/
def lowercase : CharSet :=
  .ofText "A7CF A7F1 16EBB-16ED3"

def modifierLetters : CharSet :=
  .ofText "A7F1 10EC5 11DD9 16FF2-16FF3 1E6FF"

/-- New letters without case, and letters that are numbers. -/
def otherLetters : CharSet :=
  .ofText "88F C5C CDC 10940-10959 10EC6-10EC7 11DB0-11DD8 11DDA-11DDB 16FF4-16FF6
    187F8-187FF 18D09-18D1E 18D80-18DF2 1E6C0-1E6DE 1E6E0-1E6E2 1E6E4-1E6E5 1E6E7-1E6ED
    1E6F0-1E6F4 1E6FE 2B73A-2B73F 2CEA2-2CEAD 323B0-33479"

def letterNumbers : CharSet :=
  .ofText "16FF4-16FF6"

def digits : CharSet :=
  .ofText "11DE0-11DE9"

def marks : CharSet :=
  .ofText "1ACF-1ADD 1AE0-1AEB 10EFA-10EFB 11B60 11B62-11B64 11B66 1E6E3 1E6E6 1E6EE-1E6EF
    1E6F5"

/-- New marks that take room. -/
def spacingMarks : CharSet :=
  .ofText "11B61 11B65 11B67"

/-- New marks that count as part of a letter. -/
def vowelSigns : CharSet :=
  .ofText "10EFA-10EFB 11B60-11B67 1E6E3 1E6E6 1E6EE-1E6EF 1E6F5"

def symbols : CharSet :=
  .ofText "20C1 2B96 FBC3-FBD2 FD90-FD91 FDC8-FDCE 10ED0-10ED8 1CCFA-1CCFC 1CEBA-1CED0
    1CEE0-1CEF0 1F6D8 1F777-1F77A 1F8D0-1F8D8 1FA54-1FA57 1FA8A 1FA8E 1FAC8 1FACD 1FAEA
    1FAEF 1FBFA"

def assigned : CharSet :=
  .unionAll [uppercase, lowercase, modifierLetters, otherLetters, digits, marks, spacingMarks,
    symbols]

end Recent

end DocumentModel.Text
