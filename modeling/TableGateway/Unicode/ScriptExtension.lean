import TableGateway.Text.Parts
import TableGateway.Unicode.Script

/-!
# Script extensions

A character may be used with several scripts. The table lists the characters whose scripts are not
just the one that they belong to, with the codes of all of them.
-/

namespace TableGateway.Unicode

def scriptExtensionLines : List String := [
  "183-1Avst Cari Copt Dupl Elba Geor Glag Gong Goth Grek Hani Latn Lydi Mahj Perm Shaw516-1Ben",
  "g Cyrl Deva Latn Lisu Thai Toto10-1Bopo Latn1-3Bopo Latn1-1Latn Lisu9-1Latn Thai1-1Bopo Latn",
  "38-1Cher Copt Cyrl Grek Latn Perm Tale Sunu1Cher Cyrl Grek Latn Osge Tale Sunu Todr1Cher Cyr",
  "l Latn Tfng1Glag Latn Syrc Thai Sunu1Aghb Cher Copt Cyrl Goth Grek Latn Osge Syrc Tfng Todr1",
  "Copt Elba Glag Goth Kana Latn1Cyrl Grek Latn Perm Tfng1Copt Dupl Hebr Latn Perm Syrc Tale Tf",
  "ng Todr1Armn Cyrl Dupl Goth Grek Hebr Latn Perm Syrc Tale Tfng1Latn Tfng1Dupl Latn Syrc1Cher",
  " Cyrl Latn Osge1Cher Latn Tale1Latn Sunu1Ethi Latn1-1Latn Sunu1Cyrl Latn Todr1-1Grek Latn Pe",
  "rm Todr15-1Cher Dupl Kana Latn Syrc Tfng1Cher Dupl Latn Syrc1Latn Syrc7-1Latn Syrc Sunu1Latn",
  " Syrc1-1Cher Latn Syrc1Aghb Cher Goth Latn Syrc Thai Sunu16-1Grek2-1Grek18-1Latn Osge5-1Aghb",
  " Latn Todr4-13Latn4-1Copt Grek1Copt Grek269-1Cyrl Perm1Cyrl Glag2Cyrl Latn1Cyrl Glag257-1Arm",
  "n Geor Glag130-1Arab Nkoo Rohg Syrc Thaa Yezi Gara14-1Arab Nkoo Rohg Syrc Thaa Yezi Gara1Ara",
  "b Syrc Thaa2-1Adlm Arab Nkoo Rohg Syrc Thaa Yezi Gara32-1Adlm Arab Mand Mani Ougr Phlp Rohg ",
  "Sogd Syrc10-11Arab Syrc10-10Arab Thaa Yezi6-1Arab Syrc99-1Arab Rohg636-1Beng Deva Gran Gujr ",
  "Guru Knda Latn Mlym Nand Newa Orya Shrd Taml Telu Tirh1Beng Deva Gran Gujr Guru Knda Latn Ml",
  "ym Newa Orya Taml Telu Tirh17-1Beng Deva Dogr Gong Gonm Gran Gujr Guru Knda Mahj Mlym Nand O",
  "rya Sind Sinh Sylo Takr Taml Telu Tirh Onao1Beng Deva Dogr Gong Gonm Gran Gujr Guru Knda Lim",
  "b Mahj Mlym Nand Orya Sind Sinh Sylo Takr Taml Telu Tirh Gukh Onao10Deva Dogr Kthi Mahj118-1",
  "0Beng Cakm Sylo118-10Guru Mult118-10Gujr Khoj246-14Gran Taml242-10Knda Nand Tutg848-10Cakm M",
  "ymr Tale177-1Geor Glag Latn1519-3Runr71-2Buhd Hano Tagb Tglg203-2Mong Phag1-1Mong Phag1226-1",
  "Beng Deva Gran Knda1Deva1Beng Deva Gran Knda1Deva Gran Knda1Deva1Beng Deva Newa Telu Tirh1Be",
  "ng Deva Telu1Deva Newa Shrd1Beng Deva Newa Telu1Deva Shrd1Deva Knda Mlym Orya Taml Telu1Deva",
  "2Deva Shrd2Deva1Deva Shrd1Beng Deva1Deva Newa Tirh6Deva1Deva Nand Newa1Beng Deva Shrd1Deva N",
  "ewa1Deva1Beng Deva Newa Shrd4Deva1Beng Deva Gran Knda Mlym Nand Orya Sinh Telu Tirh Tutg1Dev",
  "a Gran1Deva Gran Knda Tutg2Beng Deva1Beng2Deva Gran1Nand197-2Grek54-1Cyrl Latn Syrc1-1Syrc56",
  "4-1Latn Mong Phag31-1Adlm Arab10-1Cari Geor Glag Hung Lyci Orkh2-1Cari Grek Hung Mero146-1De",
  "va Gran Latn3366-1Copt Latn24-1Avst Orkh1Avst Cari Geor Hung Kthi Lydi Samr10-1Dupl4-1Adlm A",
  "rab Hung1-1Cyrl Glag428-16Hani Tang1-1Bopo Hang Hani Hira Kana Mong Yiii1Bopo Hang Hani Hira",
  " Kana Mong Phag Yiii1Bopo Hang Hani Hira Kana2-1Hani1-2Bopo Hang Hani Hira Kana Mong Tibt Yi",
  "ii2Bopo Hang Hani Hira Kana Lisu Mong Tibt Yiii6Bopo Hang Hani Hira Kana Yiii1-1Bopo Hang Ha",
  "ni Hira Kana8Bopo Hang Hani Hira Kana Yiii4Bopo Hang Hani Hira Kana10-4Bopo Hani2-1Bopo Hang",
  " Hani Hira Kana5Hira Kana1-1Bopo Hang Hani Hira Kana4-2Hani Hira Kana2Hani89-2Hira Kana2Hira",
  " Kana3-1Hira Kana90-1Bopo Hang Hani Hira Kana Yiii1Hira Kana147-16Hani32-38Hani9-1Hani Tang4",
  "8-40Hani56-49Hani15-12Hani51-1Hani88-25Hani10-5Hani96-31Hani29296-1Cyrl Glag144-8Hani Latn29",
  "6-3Deva Dogr Gujr Guru Khoj Knda Kthi Mahj Mlym Modi Nand Shrd Sind Takr Tirh Tutg3Deva Dogr",
  " Gujr Guru Khoj Knda Kthi Mahj Modi Nand Shrd Sind Takr Tirh Tutg2Deva Dogr Gujr Guru Khoj K",
  "thi Mahj Modi Sind Takr Tirh1Deva Dogr Gujr Guru Khoj Kthi Mahj Modi Shrd Sind Takr Tirh1Dev",
  "a Dogr Gujr Guru Khoj Kthi Mahj Modi Sind Takr Tirh183-1Beng Deva Tutg1-1Deva Taml58-1Kali L",
  "atn Mymr160-1Bugi Java21358-2Arab Nkoo178-1Arab Thaa10-1Arab Thaa71-2Bopo Hang Hani Hira Kan",
  "a282-5Bopo Hang Hani Hira Kana Yiii10-1Hira Kana45-2Hira Kana352-2Cpmn Cprt Linb1Cprt Linb4-",
  "45Cprt Lina Linb3-9Cprt Linb416-1Arab Copt27Arab Copt2038-1Mani Ougr2062-1Gran Taml1-1Gran T",
  "aml55-1Gran Taml1Gran Taml3219-2Gran Taml1-1Gran Taml40140-4Dupl5820-18Hani7902-2Hani986542-"]

/-- The codes of the scripts in an entry of the table, none where the script alone counts. -/
def scriptCodes (entry : List Char) : List String :=
  if entry = ['-'] then [] else (Text.parts ' ' entry).map String.ofList

def scriptExtensionRuns : Array (Run (List String)) :=
  readRuns scriptCodes scriptExtensionLines

/-- A character is used with the script of a code. -/
def isUsedWith (code : String) (c : Char) : Bool :=
  match (lookUp scriptExtensionRuns c.toNat).getD [] with
  | [] => script c == code
  | codes => codes.contains code

end TableGateway.Unicode
