import JsonSchema.Unicode.Case
import JsonSchema.Unicode.Property

namespace JsonSchema.Unicode

def paired : CharSet := .ofRanges (caseOrbits.flatten.map fun n => (n, n))

-- Small letters whose upper-case form is several characters or no partner of theirs.
def withoutCapital : CharSet := ⟨[
  (0x131, 0x131), (0x149, 0x149), (0x1F0, 0x1F0), (0x587, 0x587), (0x1E96, 0x1E9A),
  (0x1F50, 0x1F50), (0x1F52, 0x1F52), (0x1F54, 0x1F54), (0x1F56, 0x1F56), (0x1FB2, 0x1FB2),
  (0x1FB4, 0x1FB4), (0x1FB6, 0x1FB7), (0x1FC2, 0x1FC2), (0x1FC4, 0x1FC4), (0x1FC6, 0x1FC7),
  (0x1FD2, 0x1FD2), (0x1FD6, 0x1FD7), (0x1FE2, 0x1FE2), (0x1FE4, 0x1FE4), (0x1FE6, 0x1FE7),
  (0x1FF2, 0x1FF2), (0x1FF4, 0x1FF4), (0x1FF6, 0x1FF7), (0xFB00, 0xFB04), (0xFB13, 0xFB17)]⟩

-- Upper-case letters of two signs, which have a title-case form of their own.
def digraphs : CharSet := ⟨[(0x1C4, 0x1C4), (0x1C7, 0x1C7), (0x1CA, 0x1CA), (0x1F1, 0x1F1)]⟩

-- Georgian small letters, which begin no title in upper case.
def georgianSmall : CharSet := ⟨[(0x10D0, 0x10FA), (0x10FD, 0x10FF)]⟩

-- Cherokee capitals, the form that the difference of case is ignored in.
def cherokeeCapital : CharSet := ⟨[(0x13A0, 0x13F5)]⟩

-- What is no form in which case is ignored, besides capitals.
def unfolded : CharSet := ⟨[
  (0xB5, 0xB5), (0xDF, 0xDF), (0x149, 0x149), (0x17F, 0x17F), (0x345, 0x345), (0x3C2, 0x3C2),
  (0x3D0, 0x3D1), (0x3D5, 0x3D6), (0x3F0, 0x3F1), (0x3F5, 0x3F5), (0x587, 0x587),
  (0x13F8, 0x13FD), (0x1C80, 0x1C88), (0x1E9A, 0x1E9B), (0x1F80, 0x1F87), (0x1F90, 0x1F97),
  (0x1FA0, 0x1FA7), (0x1FB2, 0x1FB4), (0x1FB7, 0x1FB7), (0x1FC2, 0x1FC4), (0x1FC7, 0x1FC7),
  (0x1FF2, 0x1FF4), (0x1FF7, 0x1FF7), (0xAB70, 0xABBF), (0xFB00, 0xFB06), (0xFB13, 0xFB17)]⟩

def changesWhenLowercased : CharSet :=
  .union (.inter paired (.union uppercase titlecaseLetter)) (.range 0x130 0x130)

def changesWhenUppercased : CharSet :=
  .union (.inter paired (.union lowercase titlecaseLetter)) withoutCapital

def changesWhenTitlecased : CharSet :=
  .unions [.diff (.inter paired lowercase) georgianSmall, withoutCapital, digraphs]

def changesWhenCasefolded : CharSet :=
  .union (.diff changesWhenLowercased cherokeeCapital) unfolded

def changesWhenCasemapped : CharSet :=
  .unions [changesWhenLowercased, changesWhenUppercased, changesWhenTitlecased]

end JsonSchema.Unicode
