import CallSnapshot.Text.Replace

/-!
Characters by name, as Unicode 14 names them. Names stand in code point order; each keeps some
characters of the one before.
-/

namespace CallSnapshot.Text.CharacterName

/-- A plus, a code point and a full stop begin a run; a small letter says how many characters of
the last name stay (none for `a`), and the rest of the name follows. -/
def nameText : String := "
  +20.aSPACEaEXCLAMATION MARKaQUOTATION MARKaNUMBER SIGNaDOLLAR SIGNaPERCENT SIGNaAMPERSANDbPOSTROPH
  EaLEFT PARENTHESISaRIGHT PARENTHESISaASTERISKaPLUS SIGNaCOMMAaHYPHEN-MINUSaFULL STOPaSOLIDUSaDIGIT
   ZEROgONEgTWOhHREEgFOURhIVEgSIXhEVENgEIGHTgNINEaCOLONaSEMICOLONaLESS-THAN SIGNaEQUALS SIGNaGREATER
  -THAN SIGNaQUESTION MARKaCOMMERCIAL ATaLATIN CAPITAL LETTER AvBvCvDvEvFvGvHvIvJvKvLvMvNvOvPvQvRvSv
  TvUvVvWvXvYvZbEFT SQUARE BRACKETaREVERSE SOLIDUSbIGHT SQUARE BRACKETaCIRCUMFLEX ACCENTaLOW LINEaGR
  AVE ACCENTaLATIN SMALL LETTER AtBtCtDtEtFtGtHtItJtKtLtMtNtOtPtQtRtStTtUtVtWtXtYtZbEFT CURLY BRACKE
  TaVERTICAL LINEaRIGHT CURLY BRACKETaTILDE+a0.aNO-BREAK SPACEaINVERTED EXCLAMATION MARKaCENT SIGNaP
  OUND SIGNaCURRENCY SIGNaYEN SIGNaBROKEN BARaSECTION SIGNaDIAERESISaCOPYRIGHT SIGNaFEMININE ORDINAL
   INDICATORaLEFT-POINTING DOUBLE ANGLE QUOTATION MARKaNOT SIGNaSOFT HYPHENaREGISTERED SIGNaMACRONaD
  EGREE SIGNaPLUS-MINUS SIGNaSUPERSCRIPT TWOnHREEaACUTE ACCENTaMICRO SIGNaPILCROW SIGNaMIDDLE DOTaCE
  DILLAaSUPERSCRIPT ONEaMASCULINE ORDINAL INDICATORaRIGHT-POINTING DOUBLE ANGLE QUOTATION MARKaVULGA
  R FRACTION ONE QUARTERuHALFqTHREE QUARTERSaINVERTED QUESTION MARKaLATIN CAPITAL LETTER A WITH GRAV
  EzTH ACUTEzTH CIRCUMFLEXzTH TILDEzTH DIAERESISzTH RING ABOVEwEvC WITH CEDILLAvE WITH GRAVEzTH ACUT
  EzTH CIRCUMFLEXzTH DIAERESISvI WITH GRAVEzTH ACUTEzTH CIRCUMFLEXzTH DIAERESISvETHvN WITH TILDEvO W
  ITH GRAVEzTH ACUTEzTH CIRCUMFLEXzTH TILDEzTH DIAERESISaMULTIPLICATION SIGNaLATIN CAPITAL LETTER O 
  WITH STROKEvU WITH GRAVEzTH ACUTEzTH CIRCUMFLEXzTH DIAERESISvY WITH ACUTEvTHORNgSMALL LETTER SHARP
   StA WITH GRAVEz ACUTEz CIRCUMFLEXz TILDEz DIAERESISz RING ABOVEuEtC WITH CEDILLAtE WITH GRAVEz AC
  UTEz CIRCUMFLEXz DIAERESIStI WITH GRAVEz ACUTEz CIRCUMFLEXz DIAERESIStETHtN WITH TILDEtO WITH GRAV
  Ez ACUTEz CIRCUMFLEXz TILDEz DIAERESISaDIVISION SIGNaLATIN SMALL LETTER O WITH STROKEtU WITH GRAVE
  z ACUTEz CIRCUMFLEXz DIAERESIStY WITH ACUTEtTHORNtY WITH DIAERESISgCAPITAL LETTER A WITH MACRONgSM
  ALL LETTER A WITH MACRONgCAPITAL LETTER A WITH BREVEgSMALL LETTER A WITH BREVEgCAPITAL LETTER A WI
  TH OGONEKgSMALL LETTER A WITH OGONEKgCAPITAL LETTER C WITH ACUTEgSMALL LETTER C WITH ACUTEgCAPITAL
   LETTER C WITH CIRCUMFLEXgSMALL LETTER C WITH CIRCUMFLEXgCAPITAL LETTER C WITH DOT ABOVEgSMALL LET
  TER C WITH DOT ABOVEgCAPITAL LETTER C WITH CARONgSMALL LETTER C WITH CARONgCAPITAL LETTER D WITH C
  ARONgSMALL LETTER D WITH CARONgCAPITAL LETTER D WITH STROKEgSMALL LETTER D WITH STROKEgCAPITAL LET
  TER E WITH MACRONgSMALL LETTER E WITH MACRONgCAPITAL LETTER E WITH BREVEgSMALL LETTER E WITH BREVE
  gCAPITAL LETTER E WITH DOT ABOVEgSMALL LETTER E WITH DOT ABOVEgCAPITAL LETTER E WITH OGONEKgSMALL 
  LETTER E WITH OGONEKgCAPITAL LETTER E WITH CARONgSMALL LETTER E WITH CARONgCAPITAL LETTER G WITH C
  IRCUMFLEXgSMALL LETTER G WITH CIRCUMFLEXgCAPITAL LETTER G WITH BREVEgSMALL LETTER G WITH BREVEgCAP
  ITAL LETTER G WITH DOT ABOVEgSMALL LETTER G WITH DOT ABOVEgCAPITAL LETTER G WITH CEDILLAgSMALL LET
  TER G WITH CEDILLAgCAPITAL LETTER H WITH CIRCUMFLEXgSMALL LETTER H WITH CIRCUMFLEXgCAPITAL LETTER 
  H WITH STROKEgSMALL LETTER H WITH STROKEgCAPITAL LETTER I WITH TILDEgSMALL LETTER I WITH TILDEgCAP
  ITAL LETTER I WITH MACRONgSMALL LETTER I WITH MACRONgCAPITAL LETTER I WITH BREVEgSMALL LETTER I WI
  TH BREVEgCAPITAL LETTER I WITH OGONEKgSMALL LETTER I WITH OGONEKgCAPITAL LETTER I WITH DOT ABOVEgS
  MALL LETTER DOTLESS IgCAPITAL LIGATURE IJgSMALL LIGATURE IJgCAPITAL LETTER J WITH CIRCUMFLEXgSMALL
   LETTER J WITH CIRCUMFLEXgCAPITAL LETTER K WITH CEDILLAgSMALL LETTER K WITH CEDILLAuRAgCAPITAL LET
  TER L WITH ACUTEgSMALL LETTER L WITH ACUTEgCAPITAL LETTER L WITH CEDILLAgSMALL LETTER L WITH CEDIL
  LAgCAPITAL LETTER L WITH CARONgSMALL LETTER L WITH CARONgCAPITAL LETTER L WITH MIDDLE DOTgSMALL LE
  TTER L WITH MIDDLE DOTgCAPITAL LETTER L WITH STROKEgSMALL LETTER L WITH STROKEgCAPITAL LETTER N WI
  TH ACUTEgSMALL LETTER N WITH ACUTEgCAPITAL LETTER N WITH CEDILLAgSMALL LETTER N WITH CEDILLAgCAPIT
  AL LETTER N WITH CARONgSMALL LETTER N WITH CARONvPRECEDED BY APOSTROPHEgCAPITAL LETTER ENGgSMALL L
  ETTER ENGgCAPITAL LETTER O WITH MACRONgSMALL LETTER O WITH MACRONgCAPITAL LETTER O WITH BREVEgSMAL
  L LETTER O WITH BREVEgCAPITAL LETTER O WITH DOUBLE ACUTEgSMALL LETTER O WITH DOUBLE ACUTEgCAPITAL 
  LIGATURE OEgSMALL LIGATURE OEgCAPITAL LETTER R WITH ACUTEgSMALL LETTER R WITH ACUTEgCAPITAL LETTER
   R WITH CEDILLAgSMALL LETTER R WITH CEDILLAgCAPITAL LETTER R WITH CARONgSMALL LETTER R WITH CARONg
  CAPITAL LETTER S WITH ACUTEgSMALL LETTER S WITH ACUTEgCAPITAL LETTER S WITH CIRCUMFLEXgSMALL LETTE
  R S WITH CIRCUMFLEXgCAPITAL LETTER S WITH CEDILLAgSMALL LETTER S WITH CEDILLAgCAPITAL LETTER S WIT
  H CARONgSMALL LETTER S WITH CARONgCAPITAL LETTER T WITH CEDILLAgSMALL LETTER T WITH CEDILLAgCAPITA
  L LETTER T WITH CARONgSMALL LETTER T WITH CARONgCAPITAL LETTER T WITH STROKEgSMALL LETTER T WITH S
  TROKEgCAPITAL LETTER U WITH TILDEgSMALL LETTER U WITH TILDEgCAPITAL LETTER U WITH MACRONgSMALL LET
  TER U WITH MACRONgCAPITAL LETTER U WITH BREVEgSMALL LETTER U WITH BREVEgCAPITAL LETTER U WITH RING
   ABOVEgSMALL LETTER U WITH RING ABOVEgCAPITAL LETTER U WITH DOUBLE ACUTEgSMALL LETTER U WITH DOUBL
  E ACUTEgCAPITAL LETTER U WITH OGONEKgSMALL LETTER U WITH OGONEKgCAPITAL LETTER W WITH CIRCUMFLEXgS
  MALL LETTER W WITH CIRCUMFLEXgCAPITAL LETTER Y WITH CIRCUMFLEXgSMALL LETTER Y WITH CIRCUMFLEXgCAPI
  TAL LETTER Y WITH DIAERESISvZ WITH ACUTEgSMALL LETTER Z WITH ACUTEgCAPITAL LETTER Z WITH DOT ABOVE
  gSMALL LETTER Z WITH DOT ABOVEgCAPITAL LETTER Z WITH CARONgSMALL LETTER Z WITH CARONtLONG StB WITH
   STROKEgCAPITAL LETTER B WITH HOOKzTH TOPBARgSMALL LETTER B WITH TOPBARgCAPITAL LETTER TONE SIXgSM
  ALL LETTER TONE SIXgCAPITAL LETTER OPEN OvC WITH HOOKgSMALL LETTER C WITH HOOKgCAPITAL LETTER AFRI
  CAN DvD WITH HOOKzTH TOPBARgSMALL LETTER D WITH TOPBARtTURNED DELTAgCAPITAL LETTER REVERSED EvSCHW
  AvOPEN EvF WITH HOOKgSMALL LETTER F WITH HOOKgCAPITAL LETTER G WITH HOOKwAMMAgSMALL LETTER HVgCAPI
  TAL LETTER IOTAw WITH STROKEvK WITH HOOKgSMALL LETTER K WITH HOOKtL WITH BARuAMBDA WITH STROKEgCAP
  ITAL LETTER TURNED MvN WITH LEFT HOOKgSMALL LETTER N WITH LONG RIGHT LEGgCAPITAL LETTER O WITH MID
  DLE TILDEzTH HORNgSMALL LETTER O WITH HORNgCAPITAL LETTER OIgSMALL LETTER OIgCAPITAL LETTER P WITH
   HOOKgSMALL LETTER P WITH HOOKgLETTER YRgCAPITAL LETTER TONE TWOgSMALL LETTER TONE TWOgCAPITAL LET
  TER ESHgLETTER REVERSED ESH LOOPgSMALL LETTER T WITH PALATAL HOOKgCAPITAL LETTER T WITH HOOKgSMALL
   LETTER T WITH HOOKgCAPITAL LETTER T WITH RETROFLEX HOOKvU WITH HORNgSMALL LETTER U WITH HORNgCAPI
  TAL LETTER UPSILONvV WITH HOOKvY WITH HOOKgSMALL LETTER Y WITH HOOKgCAPITAL LETTER Z WITH STROKEgS
  MALL LETTER Z WITH STROKEgCAPITAL LETTER EZHy REVERSEDgSMALL LETTER EZH REVERSEDxWITH TAILgLETTER 
  TWO WITH STROKEgCAPITAL LETTER TONE FIVEgSMALL LETTER TONE FIVEgLETTER INVERTED GLOTTAL STOP WITH 
  STROKEnWYNNnDENTAL CLICKnLATERAL CLICKnALVEOLAR CLICKnRETROFLEX CLICKgCAPITAL LETTER DZ WITH CARON
  w WITH SMALL LETTER Z WITH CARONgSMALL LETTER DZ WITH CARONgCAPITAL LETTER LJw WITH SMALL LETTER J
  gSMALL LETTER LJgCAPITAL LETTER NJw WITH SMALL LETTER JgSMALL LETTER NJgCAPITAL LETTER A WITH CARO
  NgSMALL LETTER A WITH CARONgCAPITAL LETTER I WITH CARONgSMALL LETTER I WITH CARONgCAPITAL LETTER O
   WITH CARONgSMALL LETTER O WITH CARONgCAPITAL LETTER U WITH CARONgSMALL LETTER U WITH CARONgCAPITA
  L LETTER U WITH DIAERESIS AND MACRONgSMALL LETTER U WITH DIAERESIS AND MACRONgCAPITAL LETTER U WIT
  H DIAERESIS AND ACUTEgSMALL LETTER U WITH DIAERESIS AND ACUTEgCAPITAL LETTER U WITH DIAERESIS AND 
  CARONgSMALL LETTER U WITH DIAERESIS AND CARONgCAPITAL LETTER U WITH DIAERESIS AND GRAVEgSMALL LETT
  ER U WITH DIAERESIS AND GRAVEtTURNED EgCAPITAL LETTER A WITH DIAERESIS AND MACRONgSMALL LETTER A W
  ITH DIAERESIS AND MACRONgCAPITAL LETTER A WITH DOT ABOVE AND MACRONgSMALL LETTER A WITH DOT ABOVE 
  AND MACRONgCAPITAL LETTER AE WITH MACRONgSMALL LETTER AE WITH MACRONgCAPITAL LETTER G WITH STROKEg
  SMALL LETTER G WITH STROKEgCAPITAL LETTER G WITH CARONgSMALL LETTER G WITH CARONgCAPITAL LETTER K 
  WITH CARONgSMALL LETTER K WITH CARONgCAPITAL LETTER O WITH OGONEKgSMALL LETTER O WITH OGONEKgCAPIT
  AL LETTER O WITH OGONEK AND MACRONgSMALL LETTER O WITH OGONEK AND MACRONgCAPITAL LETTER EZH WITH C
  ARONgSMALL LETTER EZH WITH CARONtJ WITH CARONgCAPITAL LETTER DZw WITH SMALL LETTER ZgSMALL LETTER 
  DZgCAPITAL LETTER G WITH ACUTEgSMALL LETTER G WITH ACUTEgCAPITAL LETTER HWAIRvWYNNvN WITH GRAVEgSM
  ALL LETTER N WITH GRAVEgCAPITAL LETTER A WITH RING ABOVE AND ACUTEgSMALL LETTER A WITH RING ABOVE 
  AND ACUTEgCAPITAL LETTER AE WITH ACUTEgSMALL LETTER AE WITH ACUTEgCAPITAL LETTER O WITH STROKE AND
   ACUTEgSMALL LETTER O WITH STROKE AND ACUTEgCAPITAL LETTER A WITH DOUBLE GRAVEgSMALL LETTER A WITH
   DOUBLE GRAVEgCAPITAL LETTER A WITH INVERTED BREVEgSMALL LETTER A WITH INVERTED BREVEgCAPITAL LETT
  ER E WITH DOUBLE GRAVEgSMALL LETTER E WITH DOUBLE GRAVEgCAPITAL LETTER E WITH INVERTED BREVEgSMALL
   LETTER E WITH INVERTED BREVEgCAPITAL LETTER I WITH DOUBLE GRAVEgSMALL LETTER I WITH DOUBLE GRAVEg
  CAPITAL LETTER I WITH INVERTED BREVEgSMALL LETTER I WITH INVERTED BREVEgCAPITAL LETTER O WITH DOUB
  LE GRAVEgSMALL LETTER O WITH DOUBLE GRAVEgCAPITAL LETTER O WITH INVERTED BREVEgSMALL LETTER O WITH
   INVERTED BREVEgCAPITAL LETTER R WITH DOUBLE GRAVEgSMALL LETTER R WITH DOUBLE GRAVEgCAPITAL LETTER
   R WITH INVERTED BREVEgSMALL LETTER R WITH INVERTED BREVEgCAPITAL LETTER U WITH DOUBLE GRAVEgSMALL
   LETTER U WITH DOUBLE GRAVEgCAPITAL LETTER U WITH INVERTED BREVEgSMALL LETTER U WITH INVERTED BREV
  EgCAPITAL LETTER S WITH COMMA BELOWgSMALL LETTER S WITH COMMA BELOWgCAPITAL LETTER T WITH COMMA BE
  LOWgSMALL LETTER T WITH COMMA BELOWgCAPITAL LETTER YOGHgSMALL LETTER YOGHgCAPITAL LETTER H WITH CA
  RONgSMALL LETTER H WITH CARONgCAPITAL LETTER N WITH LONG RIGHT LEGgSMALL LETTER D WITH CURLgCAPITA
  L LETTER OUgSMALL LETTER OUgCAPITAL LETTER Z WITH HOOKgSMALL LETTER Z WITH HOOKgCAPITAL LETTER A W
  ITH DOT ABOVEgSMALL LETTER A WITH DOT ABOVEgCAPITAL LETTER E WITH CEDILLAgSMALL LETTER E WITH CEDI
  LLAgCAPITAL LETTER O WITH DIAERESIS AND MACRONgSMALL LETTER O WITH DIAERESIS AND MACRONgCAPITAL LE
  TTER O WITH TILDE AND MACRONgSMALL LETTER O WITH TILDE AND MACRONgCAPITAL LETTER O WITH DOT ABOVEg
  SMALL LETTER O WITH DOT ABOVEgCAPITAL LETTER O WITH DOT ABOVE AND MACRONgSMALL LETTER O WITH DOT A
  BOVE AND MACRONgCAPITAL LETTER Y WITH MACRONgSMALL LETTER Y WITH MACRONtL WITH CURLtN WITH CURLtT 
  WITH CURLtDOTLESS JuB DIGRAPHtQP DIGRAPHgCAPITAL LETTER A WITH STROKEvC WITH STROKEgSMALL LETTER C
   WITH STROKEgCAPITAL LETTER L WITH BARvT WITH DIAGONAL STROKEgSMALL LETTER S WITH SWASH TAILtZ WIT
  H SWASH TAILgCAPITAL LETTER GLOTTAL STOPgSMALL LETTER GLOTTAL STOPgCAPITAL LETTER B WITH STROKEvU 
  BARvTURNED VvE WITH STROKEgSMALL LETTER E WITH STROKEgCAPITAL LETTER J WITH STROKEgSMALL LETTER J 
  WITH STROKEgCAPITAL LETTER SMALL Q WITH HOOK TAILgSMALL LETTER Q WITH HOOK TAILgCAPITAL LETTER R W
  ITH STROKEgSMALL LETTER R WITH STROKEgCAPITAL LETTER Y WITH STROKEgSMALL LETTER Y WITH STROKEtTURN
  ED AtALPHAtTURNED ALPHAtB WITH HOOKtOPEN OtC WITH CURLtD WITH TAILz HOOKtREVERSED EtSCHWAy WITH HO
  OKtOPEN EtREVERSED OPEN EzED OPEN E WITH HOOKtCLOSED REVERSED OPEN EtDOTLESS J WITH STROKEtG WITH 
  HOOKtSCRIPT GgLETTER SMALL CAPITAL GgSMALL LETTER GAMMAtRAMS HORNtTURNED HtH WITH HOOKuENG WITH HO
  OKtI WITH STROKEuOTAgLETTER SMALL CAPITAL IgSMALL LETTER L WITH MIDDLE TILDEz BELTz RETROFLEX HOOK
  uEZHtTURNED Mz M WITH LONG LEGtM WITH HOOKtN WITH LEFT HOOKz RETROFLEX HOOKgLETTER SMALL CAPITAL N
  gSMALL LETTER BARRED OgLETTER SMALL CAPITAL OEgSMALL LETTER CLOSED OMEGAtPHItTURNED Rz R WITH LONG
   LEGz R WITH HOOKtR WITH LONG LEGz TAILz FISHHOOKuEVERSED R WITH FISHHOOKgLETTER SMALL CAPITAL RzL
   INVERTED RgSMALL LETTER S WITH HOOKtESHtDOTLESS J WITH STROKE AND HOOKtSQUAT REVERSED ESHtESH WIT
  H CURLtTURNED Tu WITH RETROFLEX HOOKtU BARuPSILONtV WITH HOOKtTURNED Vz Wz YgLETTER SMALL CAPITAL 
  YgSMALL LETTER Z WITH RETROFLEX HOOKz CURLtEZHw WITH CURLgLETTER GLOTTAL STOPnPHARYNGEAL VOICED FR
  ICATIVEnINVERTED GLOTTAL STOPnSTRETCHED CnBILABIAL CLICKnSMALL CAPITAL BgSMALL LETTER CLOSED OPEN 
  EgLETTER SMALL CAPITAL G WITH HOOKzL HgSMALL LETTER J WITH CROSSED-TAILtTURNED KgLETTER SMALL CAPI
  TAL LgSMALL LETTER Q WITH HOOKgLETTER GLOTTAL STOP WITH STROKEnREVERSED GLOTTAL STOP WITH STROKEgS
  MALL LETTER DZ DIGRAPHuEZH DIGRAPHuZ DIGRAPH WITH CURLtTS DIGRAPHuESH DIGRAPHuC DIGRAPH WITH CURLt
  FENG DIGRAPHtLS DIGRAPHuZ DIGRAPHgLETTER BILABIAL PERCUSSIVEpDENTAL PERCUSSIVEgSMALL LETTER TURNED
   H WITH FISHHOOKz H WITH FISHHOOK AND TAILaMODIFIER LETTER SMALL Hx WITH HOOKwJwRwTURNED RzNED R W
  ITH HOOKwCAPITAL INVERTED RwWwYqPRIMEqDOUBLE PRIMEqTURNED COMMAqAPOSTROPHEqREVERSED COMMArIGHT HAL
  F RINGqLEFT HALF RINGqGLOTTAL STOPqREVERSED GLOTTAL STOPqLEFT ARROWHEADqRIGHT ARROWHEADqUP ARROWHE
  ADqDOWN ARROWHEADqCIRCUMFLEX ACCENTaCARONaMODIFIER LETTER VERTICAL LINEqMACRONqACUTE ACCENTqGRAVE 
  ACCENTqLOW VERTICAL LINEuMACRONuGRAVE ACCENTuACUTE ACCENTqTRIANGULAR COLONqHALF TRIANGULAR COLONqC
  ENTRED RIGHT HALF RINGyLEFT HALF RINGqUP TACKqDOWN TACKqPLUS SIGNqMINUS SIGNaBREVEaDOT ABOVEaRING 
  ABOVEaOGONEKaSMALL TILDEaDOUBLE ACUTE ACCENTaMODIFIER LETTER RHOTIC HOOKqCROSS ACCENTqSMALL GAMMAw
  LwSwXwREVERSED GLOTTAL STOPqEXTRA-HIGH TONE BARqHIGH TONE BARqMID TONE BARqLOW TONE BARqEXTRA-LOW 
  TONE BARqYIN DEPARTING TONE MARKrANG DEPARTING TONE MARKqVOICINGqUNASPIRATEDqDOUBLE APOSTROPHEqLOW
   DOWN ARROWHEADuUP ARROWHEADuLEFT ARROWHEADuRIGHT ARROWHEADwNGqMIDDLE GRAVE ACCENTxDOUBLE GRAVE AC
  CENTzUBLE ACUTE ACCENTqLOW TILDEqRAISED COLONqBEGIN HIGH TONEqEND HIGH TONEqBEGIN LOW TONEqEND LOW
   TONEqSHELFqOPEN SHELFqLOW LEFT ARROWaCOMBINING GRAVE ACCENTkACUTE ACCENTkCIRCUMFLEX ACCENTkTILDEk
  MACRONkOVERLINEkBREVEkDOT ABOVElIAERESISkHOOK ABOVEkRING ABOVEkDOUBLE ACUTE ACCENTkCARONkVERTICAL 
  LINE ABOVEkDOUBLE VERTICAL LINE ABOVErGRAVE ACCENTkCANDRABINDUkINVERTED BREVEkTURNED COMMA ABOVEkC
  OMMA ABOVEkREVERSED COMMA ABOVEkCOMMA ABOVE RIGHTkGRAVE ACCENT BELOWkACUTE ACCENT BELOWkLEFT TACK 
  BELOWkRIGHT TACK BELOWkLEFT ANGLE ABOVEkHORNkLEFT HALF RING BELOWkUP TACK BELOWkDOWN TACK BELOWkPL
  US SIGN BELOWkMINUS SIGN BELOWkPALATALIZED HOOK BELOWkRETROFLEX HOOK BELOWkDOT BELOWlIAERESIS BELO
  WkRING BELOWkCOMMA BELOWlEDILLAkOGONEKkVERTICAL LINE BELOWkBRIDGE BELOWkINVERTED DOUBLE ARCH BELOW
  kCARON BELOWlIRCUMFLEX ACCENT BELOWkBREVE BELOWkINVERTED BREVE BELOWkTILDE BELOWkMACRON BELOWkLOW 
  LINEkDOUBLE LOW LINEkTILDE OVERLAYkSHORT STROKE OVERLAYkLONG STROKE OVERLAYkSHORT SOLIDUS OVERLAYk
  LONG SOLIDUS OVERLAYkRIGHT HALF RING BELOWkINVERTED BRIDGE BELOWkSQUARE BELOWlEAGULL BELOWkX ABOVE
  kVERTICAL TILDEkDOUBLE OVERLINEkGRAVE TONE MARKkACUTE TONE MARKkGREEK PERISPOMENIqKORONISqDIALYTIK
  A TONOSqYPOGEGRAMMENIkBRIDGE ABOVEkEQUALS SIGN BELOWkDOUBLE VERTICAL LINE BELOWkLEFT ANGLE BELOWkN
  OT TILDE ABOVEkHOMOTHETIC ABOVEkALMOST EQUAL TO ABOVEkLEFT RIGHT ARROW BELOWkUPWARDS ARROW BELOWkG
  RAPHEME JOINERkRIGHT ARROWHEAD ABOVEkLEFT HALF RING ABOVEkFERMATAkX BELOWkLEFT ARROWHEAD BELOWkRIG
  HT ARROWHEAD BELOWz AND UP ARROWHEAD BELOWqHALF RING ABOVEkDOT ABOVE RIGHTkASTERISK BELOWkDOUBLE R
  ING BELOWkZIGZAG ABOVEkDOUBLE BREVE BELOWwrMACRONx BELOWrTILDErINVERTED BREVErRIGHTWARDS ARROW BEL
  OWkLATIN SMALL LETTER AzTER EzTER IzTER OzTER UzTER CzTER DzTER HzTER MzTER RzTER TzTER VzTER XaGR
  EEK CAPITAL LETTER HETAgSMALL LETTER HETAgCAPITAL LETTER ARCHAIC SAMPIgSMALL LETTER ARCHAIC SAMPIg
  NUMERAL SIGNgLOWER NUMERAL SIGNgCAPITAL LETTER PAMPHYLIAN DIGAMMAgSMALL LETTER PAMPHYLIAN DIGAMMA+
  37a.gYPOGEGRAMMENIgSMALL REVERSED LUNATE SIGMA SYMBOLmDOTTED LUNATE SIGMA SYMBOLmREVERSED DOTTED L
  UNATE SIGMA SYMBOLgQUESTION MARKgCAPITAL LETTER YOT+384.gTONOSgDIALYTIKA TONOSgCAPITAL LETTER ALPH
  A WITH TONOSgANO TELEIAgCAPITAL LETTER EPSILON WITH TONOSwTA WITH TONOSvIOTA WITH TONOS+38c.vOMICR
  ON WITH TONOS+38e.vUPSILON WITH TONOSvOMEGA WITH TONOSgSMALL LETTER IOTA WITH DIALYTIKA AND TONOSg
  CAPITAL LETTER ALPHAvBETAvGAMMAvDELTAvEPSILONvZETAvETAvTHETAvIOTAvKAPPAvLAMDAvMUvNUvXIvOMICRONvPIv
  RHO+3a3.vSIGMAvTAUvUPSILONvPHIvCHIvPSIvOMEGAvIOTA WITH DIALYTIKAvUPSILON WITH DIALYTIKAgSMALL LETT
  ER ALPHA WITH TONOStEPSILON WITH TONOSuTA WITH TONOStIOTA WITH TONOStUPSILON WITH DIALYTIKA AND TO
  NOStALPHAtBETAtGAMMAtDELTAtEPSILONtZETAtETAtTHETAtIOTAtKAPPAtLAMDAtMUtNUtXItOMICRONtPItRHOtFINAL S
  IGMAtSIGMAtTAUtUPSILONtPHItCHItPSItOMEGAtIOTA WITH DIALYTIKAtUPSILON WITH DIALYTIKAtOMICRON WITH T
  ONOStUPSILON WITH TONOStOMEGA WITH TONOSgCAPITAL KAI SYMBOLgBETA SYMBOLgTHETA SYMBOLgUPSILON WITH 
  HOOK SYMBOLtACUTE AND HOOK SYMBOLtDIAERESIS AND HOOK SYMBOLgPHI SYMBOLhI SYMBOLgKAI SYMBOLgLETTER 
  ARCHAIC KOPPAgSMALL LETTER ARCHAIC KOPPAgLETTER STIGMAgSMALL LETTER STIGMAgLETTER DIGAMMAgSMALL LE
  TTER DIGAMMAgLETTER KOPPAgSMALL LETTER KOPPAgLETTER SAMPIgSMALL LETTER SAMPIaCOPTIC CAPITAL LETTER
   SHEIhSMALL LETTER SHEIhCAPITAL LETTER FEIhSMALL LETTER FEIhCAPITAL LETTER KHEIhSMALL LETTER KHEIh
  CAPITAL LETTER HORIhSMALL LETTER HORIhCAPITAL LETTER GANGIAhSMALL LETTER GANGIAhCAPITAL LETTER SHI
  MAhSMALL LETTER SHIMAhCAPITAL LETTER DEIhSMALL LETTER DEIaGREEK KAPPA SYMBOLgRHO SYMBOLgLUNATE SIG
  MA SYMBOLhETTER YOTgCAPITAL THETA SYMBOLgLUNATE EPSILON SYMBOLgREVERSED LUNATE EPSILON SYMBOLgCAPI
  TAL LETTER SHOgSMALL LETTER SHOgCAPITAL LUNATE SIGMA SYMBOLpETTER SANgSMALL LETTER SANgRHO WITH ST
  ROKE SYMBOLgCAPITAL REVERSED LUNATE SIGMA SYMBOLoDOTTED LUNATE SIGMA SYMBOLoREVERSED DOTTED LUNATE
   SIGMA SYMBOLaCYRILLIC CAPITAL LETTER IE WITH GRAVEzOyDJEyGJEyUKRAINIAN IEyDZEyBYELORUSSIAN-UKRAIN
  IAN IyYIyJEyLJEyNJEyTSHEyKJEyI WITH GRAVEySHORT UyDZHEyAyBEyVEyGHEyDEyIEyZHEzEyIySHORT IyKAyELzMzN
  yOyPEyERzSyTEyUyEFyHAyTSEyCHEySHAzHCHAyHARD SIGNyYERUySOFT SIGNyEyYUzAjSMALL LETTER AwBEwVEwGHEwDE
  wIEwZHExEwIwSHORT IwKAwELxMxNwOwPEwERxSwTEwUwEFwHAwTSEwCHEwSHAyCHAwHARD SIGNwYERUwSOFT SIGNwEwYUxA
  wIE WITH GRAVExOwDJEwGJEwUKRAINIAN IEwDZEwBYELORUSSIAN-UKRAINIAN IwYIwJEwLJEwNJEwTSHEwKJEwI WITH G
  RAVEwSHORT UwDZHEjCAPITAL LETTER OMEGAjSMALL LETTER OMEGAjCAPITAL LETTER YATjSMALL LETTER YATjCAPI
  TAL LETTER IOTIFIED EjSMALL LETTER IOTIFIED EjCAPITAL LETTER LITTLE YUSjSMALL LETTER LITTLE YUSjCA
  PITAL LETTER IOTIFIED LITTLE YUSjSMALL LETTER IOTIFIED LITTLE YUSjCAPITAL LETTER BIG YUSjSMALL LET
  TER BIG YUSjCAPITAL LETTER IOTIFIED BIG YUSjSMALL LETTER IOTIFIED BIG YUSjCAPITAL LETTER KSIjSMALL
   LETTER KSIjCAPITAL LETTER PSIjSMALL LETTER PSIjCAPITAL LETTER FITAjSMALL LETTER FITAjCAPITAL LETT
  ER IZHITSAjSMALL LETTER IZHITSAjCAPITAL LETTER IZHITSA WITH DOUBLE GRAVE ACCENTjSMALL LETTER IZHIT
  SA WITH DOUBLE GRAVE ACCENTjCAPITAL LETTER UKjSMALL LETTER UKjCAPITAL LETTER ROUND OMEGAjSMALL LET
  TER ROUND OMEGAjCAPITAL LETTER OMEGA WITH TITLOjSMALL LETTER OMEGA WITH TITLOjCAPITAL LETTER OTjSM
  ALL LETTER OTjCAPITAL LETTER KOPPAjSMALL LETTER KOPPAjTHOUSANDS SIGNbOMBINING CYRILLIC TITLOtPALAT
  ALIZATIONtDASIA PNEUMATAtPSILI PNEUMATAuOKRYTIEtHUNDRED THOUSANDS SIGNtMILLIONS SIGNbYRILLIC CAPIT
  AL LETTER SHORT I WITH TAILjSMALL LETTER SHORT I WITH TAILjCAPITAL LETTER SEMISOFT SIGNjSMALL LETT
  ER SEMISOFT SIGNjCAPITAL LETTER ER WITH TICKjSMALL LETTER ER WITH TICKjCAPITAL LETTER GHE WITH UPT
  URNjSMALL LETTER GHE WITH UPTURNjCAPITAL LETTER GHE WITH STROKEjSMALL LETTER GHE WITH STROKEjCAPIT
  AL LETTER GHE WITH MIDDLE HOOKjSMALL LETTER GHE WITH MIDDLE HOOKjCAPITAL LETTER ZHE WITH DESCENDER
  jSMALL LETTER ZHE WITH DESCENDERjCAPITAL LETTER ZE WITH DESCENDERjSMALL LETTER ZE WITH DESCENDERjC
  APITAL LETTER KA WITH DESCENDERjSMALL LETTER KA WITH DESCENDERjCAPITAL LETTER KA WITH VERTICAL STR
  OKEjSMALL LETTER KA WITH VERTICAL STROKEjCAPITAL LETTER KA WITH STROKEjSMALL LETTER KA WITH STROKE
  jCAPITAL LETTER BASHKIR KAjSMALL LETTER BASHKIR KAjCAPITAL LETTER EN WITH DESCENDERjSMALL LETTER E
  N WITH DESCENDERjCAPITAL LIGATURE EN GHEjSMALL LIGATURE EN GHEjCAPITAL LETTER PE WITH MIDDLE HOOKj
  SMALL LETTER PE WITH MIDDLE HOOKjCAPITAL LETTER ABKHASIAN HAjSMALL LETTER ABKHASIAN HAjCAPITAL LET
  TER ES WITH DESCENDERjSMALL LETTER ES WITH DESCENDERjCAPITAL LETTER TE WITH DESCENDERjSMALL LETTER
   TE WITH DESCENDERjCAPITAL LETTER STRAIGHT UjSMALL LETTER STRAIGHT UjCAPITAL LETTER STRAIGHT U WIT
  H STROKEjSMALL LETTER STRAIGHT U WITH STROKEjCAPITAL LETTER HA WITH DESCENDERjSMALL LETTER HA WITH
   DESCENDERjCAPITAL LIGATURE TE TSEjSMALL LIGATURE TE TSEjCAPITAL LETTER CHE WITH DESCENDERjSMALL L
  ETTER CHE WITH DESCENDERjCAPITAL LETTER CHE WITH VERTICAL STROKEjSMALL LETTER CHE WITH VERTICAL ST
  ROKEjCAPITAL LETTER SHHAjSMALL LETTER SHHAjCAPITAL LETTER ABKHASIAN CHEjSMALL LETTER ABKHASIAN CHE
  jCAPITAL LETTER ABKHASIAN CHE WITH DESCENDERjSMALL LETTER ABKHASIAN CHE WITH DESCENDERjLETTER PALO
  CHKAjCAPITAL LETTER ZHE WITH BREVEjSMALL LETTER ZHE WITH BREVEjCAPITAL LETTER KA WITH HOOKjSMALL L
  ETTER KA WITH HOOKjCAPITAL LETTER EL WITH TAILjSMALL LETTER EL WITH TAILjCAPITAL LETTER EN WITH HO
  OKjSMALL LETTER EN WITH HOOKjCAPITAL LETTER EN WITH TAILjSMALL LETTER EN WITH TAILjCAPITAL LETTER 
  KHAKASSIAN CHEjSMALL LETTER KHAKASSIAN CHEjCAPITAL LETTER EM WITH TAILjSMALL LETTER EM WITH TAILwP
  ALOCHKAjCAPITAL LETTER A WITH BREVEjSMALL LETTER A WITH BREVEjCAPITAL LETTER A WITH DIAERESISjSMAL
  L LETTER A WITH DIAERESISjCAPITAL LIGATURE A IEjSMALL LIGATURE A IEjCAPITAL LETTER IE WITH BREVEjS
  MALL LETTER IE WITH BREVEjCAPITAL LETTER SCHWAjSMALL LETTER SCHWAjCAPITAL LETTER SCHWA WITH DIAERE
  SISjSMALL LETTER SCHWA WITH DIAERESISjCAPITAL LETTER ZHE WITH DIAERESISjSMALL LETTER ZHE WITH DIAE
  RESISjCAPITAL LETTER ZE WITH DIAERESISjSMALL LETTER ZE WITH DIAERESISjCAPITAL LETTER ABKHASIAN DZE
  jSMALL LETTER ABKHASIAN DZEjCAPITAL LETTER I WITH MACRONjSMALL LETTER I WITH MACRONjCAPITAL LETTER
   I WITH DIAERESISjSMALL LETTER I WITH DIAERESISjCAPITAL LETTER O WITH DIAERESISjSMALL LETTER O WIT
  H DIAERESISjCAPITAL LETTER BARRED OjSMALL LETTER BARRED OjCAPITAL LETTER BARRED O WITH DIAERESISjS
  MALL LETTER BARRED O WITH DIAERESISjCAPITAL LETTER E WITH DIAERESISjSMALL LETTER E WITH DIAERESISj
  CAPITAL LETTER U WITH MACRONjSMALL LETTER U WITH MACRONjCAPITAL LETTER U WITH DIAERESISjSMALL LETT
  ER U WITH DIAERESISjCAPITAL LETTER U WITH DOUBLE ACUTEjSMALL LETTER U WITH DOUBLE ACUTEjCAPITAL LE
  TTER CHE WITH DIAERESISjSMALL LETTER CHE WITH DIAERESISjCAPITAL LETTER GHE WITH DESCENDERjSMALL LE
  TTER GHE WITH DESCENDERjCAPITAL LETTER YERU WITH DIAERESISjSMALL LETTER YERU WITH DIAERESISjCAPITA
  L LETTER GHE WITH STROKE AND HOOKjSMALL LETTER GHE WITH STROKE AND HOOKjCAPITAL LETTER HA WITH HOO
  KjSMALL LETTER HA WITH HOOKjCAPITAL LETTER HA WITH STROKEjSMALL LETTER HA WITH STROKEjCAPITAL LETT
  ER KOMI DEjSMALL LETTER KOMI DEjCAPITAL LETTER KOMI DJEjSMALL LETTER KOMI DJEjCAPITAL LETTER KOMI 
  ZJEjSMALL LETTER KOMI ZJEjCAPITAL LETTER KOMI DZJEjSMALL LETTER KOMI DZJEjCAPITAL LETTER KOMI LJEj
  SMALL LETTER KOMI LJEjCAPITAL LETTER KOMI NJEjSMALL LETTER KOMI NJEjCAPITAL LETTER KOMI SJEjSMALL 
  LETTER KOMI SJEjCAPITAL LETTER KOMI TJEjSMALL LETTER KOMI TJEjCAPITAL LETTER REVERSED ZEjSMALL LET
  TER REVERSED ZEjCAPITAL LETTER EL WITH HOOKjSMALL LETTER EL WITH HOOKjCAPITAL LETTER LHAjSMALL LET
  TER LHAjCAPITAL LETTER RHAjSMALL LETTER RHAjCAPITAL LETTER YAEjSMALL LETTER YAEjCAPITAL LETTER QAj
  SMALL LETTER QAjCAPITAL LETTER WEjSMALL LETTER WEjCAPITAL LETTER ALEUT KAjSMALL LETTER ALEUT KAjCA
  PITAL LETTER EL WITH MIDDLE HOOKjSMALL LETTER EL WITH MIDDLE HOOKjCAPITAL LETTER EN WITH MIDDLE HO
  OKjSMALL LETTER EN WITH MIDDLE HOOKjCAPITAL LETTER PE WITH DESCENDERjSMALL LETTER PE WITH DESCENDE
  RjCAPITAL LETTER SHHA WITH DESCENDERjSMALL LETTER SHHA WITH DESCENDERjCAPITAL LETTER EN WITH LEFT 
  HOOKjSMALL LETTER EN WITH LEFT HOOKjCAPITAL LETTER DZZHEjSMALL LETTER DZZHEjCAPITAL LETTER DCHEjSM
  ALL LETTER DCHEjCAPITAL LETTER EL WITH DESCENDERjSMALL LETTER EL WITH DESCENDER+531.aARMENIAN CAPI
  TAL LETTER AYByBENyGIMyDAyECHyZAyEHzTyTOyZHEyINIyLIWNyXEHyCAyKENyHOyJAyGHADyCHEHyMENyYIyNOWySHAyVO
  yCHAyPEHyJHEHyRAySEHyVEWyTIWNyREHyCOyYIWNyPIWRyKEHyOHyFEH+559.jMODIFIER LETTER LEFT HALF RINGjAPOS
  TROPHEjEMPHASIS MARKkXCLAMATION MARKjCOMMAjQUESTION MARKjABBREVIATION MARKjSMALL LETTER TURNED AYB
  wAYBwBENwGIMwDAwECHwZAwEHxTwTOwZHEwINIwLIWNwXEHwCAwKENwHOwJAwGHADwCHEHwMENwYIwNOWwSHAwVOwCHAwPEHwJ
  HEHwRAwSEHwVEWwTIWNwREHwCOwYIWNwPIWRwKEHwOHwFEHqIGATURE ECH YIWNqETTER YI WITH STROKEjFULL STOPjHY
  PHEN+58d.aRIGHT-FACING ARMENIAN ETERNITY SIGNaLEFT-FACING ARMENIAN ETERNITY SIGNaARMENIAN DRAM SIG
  N+591.aHEBREW ACCENT ETNAHTAoSEGOLpHALSHELEToZAQEF QATANuGADOLoTIPEHAoREVIAoZARQAoPASHTAoYETIVoTEV
  IRoGERESHu MUQDAMrSHAYIMoQARNEY PARAoTELISHA GEDOLAoPAZERoATNAH HAFUKHoMUNAHpAHAPAKHpERKHAu KEFULA
  oDARGAoQADMAoTELISHA QETANAoYERAH BEN YOMOoOLEoILUYoDEHIoZINORhMARK MASORA CIRCLEhPOINT SHEVAnHATA
  F SEGOLtPATAHtQAMATSoIRIQnTSEREnSEGOLnPATAHnQAMATSnHOLAMs HASER FOR VAVnQUBUTSnDAGESH OR MAPIQnMET
  EGiUNCTUATION MAQAFiOINT RAFEiUNCTUATION PASEQiOINT SHIN DOToIN DOTiUNCTUATION SOF PASUQhMARK UPPE
  R DOTmLOWER DOThPUNCTUATION NUN HAFUKHAiOINT QAMATS QATAN+5d0.hLETTER ALEFoBEToGIMELoDALEToHEoVAVo
  ZAYINoHEToTEToYODoFINAL KAFoKAFoLAMEDoFINAL MEMoMEMoFINAL NUNoNUNoSAMEKHoAYINoFINAL PEoPEoFINAL TS
  ADIoTSADIoQOFoRESHoSHINoTAV+5ef.hYOD TRIANGLEhLIGATURE YIDDISH DOUBLE VAVyVAV YODyDOUBLE YODhPUNCT
  UATION GERESHwSHAYIM+600.aARABIC NUMBER SIGNhSIGN SANAHhFOOTNOTE MARKERhSIGN SAFHAoMVAThNUMBER MAR
  K ABOVEg-INDIC CUBE ROOTnFOURTH ROOTg RAYg-INDIC PER MILLE SIGNrTEN THOUSAND SIGNbFGHANI SIGNbRABI
  C COMMAhDATE SEPARATORhPOETIC VERSE SIGNhSIGN MISRAmSALLALLAHOU ALAYHE WASSALLAMmALAYHE ASSALLAMmR
  AHMATULLAH ALAYHEoDI ALLAHOU ANHUmTAKHALLUSiMALL HIGH TAHsLIGATURE ALEF WITH LAM WITH YEHsZAINnFAT
  HAnDAMMAnKASRAiEMICOLONhLETTER MARKhEND OF TEXT MARKhTRIPLE DOT PUNCTUATION MARKhQUESTION MARKhLET
  TER KASHMIRI YEHoHAMZAoALEF WITH MADDA ABOVEyHAMZA ABOVEoWAW WITH HAMZA ABOVEoALEF WITH HAMZA BELO
  WoYEH WITH HAMZA ABOVEoALEFoBEHoTEH MARBUTArpHEHoJEEMoHAHoKHAHoDALoTHALoREHoZAINoSEENpHEENpADoDADo
  TAHoZAHoAINoGHAINoKEHEH WITH TWO DOTS ABOVEzTHREE DOTS BELOWoFARSI YEH WITH INVERTED VzITH TWO DOT
  S ABOVEzITH THREE DOTS ABOVEhTATWEELhLETTER FEHoQAFoKAFoLAMoMEEMoNOONoHEHoWAWoALEF MAKSURAoYEHhFAT
  HATANhDAMMATANhKASRATANhFATHAhDAMMAhKASRAhSHADDAiUKUNhMADDAH ABOVEhHAMZA ABOVEnBELOWhSUBSCRIPT ALE
  FhINVERTED DAMMAhMARK NOON GHUNNAhZWARAKAYhVOWEL SIGN SMALL V ABOVEsINVERTED SMALL V ABOVEsDOT BEL
  OWhREVERSED DAMMAhFATHA WITH TWO DOTShWAVY HAMZA BELOWg-INDIC DIGIT ZEROtONEtTWOuHREEtFOURuIVEtSIX
  uEVENtEIGHTtNINEg PERCENT SIGNhDECIMAL SEPARATORhTHOUSANDS SEPARATORhFIVE POINTED STARhLETTER DOTL
  ESS BEHwQAFoSUPERSCRIPT ALEFoALEF WASLAuITH WAVY HAMZA ABOVEzAVY HAMZA BELOWoHIGH HAMZAy ALEFzWAWo
  U WITH HAMZA ABOVEoHIGH HAMZA YEHoTTEHsEHoBEEHoTEH WITH RINGxTHREE DOTS ABOVE DOWNWARDSoPEHoTEHEHo
  BEHEHoHAH WITH HAMZA ABOVExTWO DOTS VERTICAL ABOVEoNYEHoDYEHoHAH WITH THREE DOTS ABOVEoTCHEHtEHoDD
  ALpAL WITH RINGxDOT BELOWzT BELOW AND SMALL TAHqHALpDAHALpULpAL WITH THREE DOTS ABOVE DOWNWARDSxFO
  UR DOTS ABOVEoRREHpEH WITH SMALL VxRINGxDOT BELOWxSMALL V BELOWxDOT BELOW AND DOT ABOVExTWO DOTS A
  BOVEoJEHoREH WITH FOUR DOTS ABOVEoSEEN WITH DOT BELOW AND DOT ABOVEyTHREE DOTS BELOWzHREE DOTS BEL
  OW AND THREE DOTS ABOVEpAD WITH TWO DOTS BELOWyHREE DOTS ABOVEoTAH WITH THREE DOTS ABOVEoAIN WITH 
  THREE DOTS ABOVEoDOTLESS FEHoFEH WITH DOT MOVED BELOWzT BELOWoVEHoFEH WITH THREE DOTS BELOWoPEHEHo
  QAF WITH DOT ABOVExTHREE DOTS ABOVEoKEHEHoSWASH KAFoKAF WITH RINGxDOT ABOVEoNGoKAF WITH THREE DOTS
   BELOWoGAFr WITH RINGoNGOEHoGAF WITH TWO DOTS BELOWpUEHpAF WITH THREE DOTS ABOVEoLAM WITH SMALL Vx
  DOT ABOVExTHREE DOTS ABOVEzREE DOTS BELOWoNOON WITH DOT BELOWtGHUNNAoRNOONoNOON WITH RINGyTHREE DO
  TS ABOVEoHEH DOACHASHMEEoTCHEH WITH DOT ABOVEoHEH WITH YEH ABOVEsGOALw WITH HAMZA ABOVEoTEH MARBUT
  A GOALoWAW WITH RINGoKIRGHIZ OEoOEoUoYUoKIRGHIZ YUoWAW WITH TWO DOTS ABOVEoVEoFARSI YEHoYEH WITH T
  AILxSMALL VoWAW WITH DOT ABOVEoEoYEH WITH THREE DOTS BELOWsBARREEy WITH HAMZA ABOVEhFULL STOPhLETT
  ER AEhSMALL HIGH LIGATURE SAD WITH LAM WITH ALEF MAKSURAzE QAF WITH LAM WITH ALEF MAKSURAsMEEM INI
  TIAL FORMsLAM ALEFsJEEMsTHREE DOTSsSEENhEND OF AYAHhSTART OF RUB EL HIZBiMALL HIGH ROUNDED ZEROsUP
  RIGHT RECTANGULAR ZEROsDOTLESS HEAD OF KHAHsMEEM ISOLATED FORMnLOW SEENnHIGH MADDAnWAWnYEHnHIGH YE
  HsNOONhPLACE OF SAJDAHhEMPTY CENTRE LOW STOPuHIGH STOPhROUNDED HIGH STOP WITH FILLED CENTREhSMALL 
  LOW MEEMhLETTER DAL WITH INVERTED VoREH WITH INVERTED VaEXTENDED ARABIC-INDIC DIGIT ZEROzIT ONEzIT
   TWOzIT THREEzIT FOURzIT FIVEzIT SIXzIT SEVENzIT EIGHTzIT NINEaARABIC LETTER SHEEN WITH DOT BELOWo
  DAD WITH DOT BELOWoGHAIN WITH DOT BELOWhSIGN SINDHI AMPERSANDtPOSTPOSITION MENhLETTER HEH WITH INV
  ERTED VaSYRIAC END OF PARAGRAPHhSUPRALINEAR FULL STOPjBLINEAR FULL STOPjPRALINEAR COLONjBLINEAR CO
  LONhHORIZONTAL COLONhCOLON SKEWED LEFTuRIGHThSUPRALINEAR COLON SKEWED LEFTjBLINEAR COLON SKEWED RI
  GHThCONTRACTIONhHARKLEAN OBELUSqMETOBELUSqASTERISCUS+70f.hABBREVIATION MARKhLETTER ALAPHoSUPERSCRI
  PT ALAPHoBETHoGAMALt GARSHUNIoDALATHpOTLESS DALATH RISHoHEoWAWoZAINoHETHoTETHs GARSHUNIoYUDHs HEoK
  APHoLAMADHoMIMoNUNoSEMKATHoFINAL SEMKATHoEoPEoREVERSED PEoSADHEoQAPHoRISHoSHINoTAWoPERSIAN BHETHwG
  HAMALwDHALATHhPTHAHA ABOVEoBELOWoDOTTEDhZQAPHA ABOVEoBELOWoDOTTEDhRBASA ABOVEnBELOWhDOTTED ZLAMA H
  ORIZONTALuANGULARhHBASA ABOVEnBELOWm-ESASA DOTTEDhESASA ABOVEnBELOWhRWAHAhFEMININE DOThQUSHSHAYAhR
  UKKAKHAhTWO VERTICAL DOTS ABOVEzBELOWiHREE DOTS ABOVEsBELOWhOBLIQUE LINE ABOVEuBELOWhMUSIChBARREKH
  +74d.hLETTER SOGDIAN ZHAINwKHAPHwFEaARABIC LETTER BEH WITH THREE DOTS HORIZONTALLY BELOWxDOT BELOW
   AND THREE DOTS ABOVExTHREE DOTS POINTING UPWARDS BELOWzREE DOTS POINTING UPWARDS BELOW AND TWO DO
  TS ABOVEyWO DOTS BELOW AND DOT ABOVExINVERTED SMALL V BELOWxSMALL VoHAH WITH TWO DOTS ABOVEyHREE D
  OTS POINTING UPWARDS BELOWoDAL WITH TWO DOTS VERTICALLY BELOW AND SMALL TAHxINVERTED SMALL V BELOW
  oREH WITH STROKEoSEEN WITH FOUR DOTS ABOVEoAIN WITH TWO DOTS ABOVEyHREE DOTS POINTING DOWNWARDS AB
  OVEyWO DOTS VERTICALLY ABOVEoFEH WITH TWO DOTS BELOWyHREE DOTS POINTING UPWARDS BELOWoKEHEH WITH D
  OT ABOVEzTHREE DOTS ABOVEzTHREE DOTS POINTING UPWARDS BELOWoMEEM WITH DOT ABOVEzOT BELOWoNOON WITH
   TWO DOTS BELOWySMALL TAHzMALL VoLAM WITH BARoREH WITH TWO DOTS VERTICALLY ABOVExHAMZA ABOVEoSEEN 
  WITH TWO DOTS VERTICALLY ABOVEoHAH WITH SMALL ARABIC LETTER TAH BELOWzALL ARABIC LETTER TAH AND TW
  O DOTSoSEEN WITH SMALL ARABIC LETTER TAH AND TWO DOTSoREH WITH SMALL ARABIC LETTER TAH AND TWO DOT
  SoHAH WITH SMALL ARABIC LETTER TAH ABOVEoALEF WITH EXTENDED ARABIC-INDIC DIGIT TWO ABOVEzXTENDED A
  RABIC-INDIC DIGIT THREE ABOVEoFARSI YEH WITH EXTENDED ARABIC-INDIC DIGIT TWO ABOVEzITH EXTENDED AR
  ABIC-INDIC DIGIT THREE ABOVEzITH EXTENDED ARABIC-INDIC DIGIT FOUR BELOWoWAW WITH EXTENDED ARABIC-I
  NDIC DIGIT TWO ABOVEzTENDED ARABIC-INDIC DIGIT THREE ABOVEoYEH BARREE WITH EXTENDED ARABIC-INDIC D
  IGIT TWO ABOVEzWITH EXTENDED ARABIC-INDIC DIGIT THREE ABOVEoHAH WITH EXTENDED ARABIC-INDIC DIGIT F
  OUR BELOWoSEEN WITH EXTENDED ARABIC-INDIC DIGIT FOUR ABOVEyINVERTED VoKAF WITH TWO DOTS ABOVEaTHAA
  NA LETTER HAAoSHAVIYANIoNOONUoRAAoBAAoLHAVIYANIoKAAFUoALIFUoVAAVUoMEEMUoFAAFUoDHAALUoTHAAoLAAMUoGA
  AFUpNAVIYANIoSEENUoDAVIYANIoZAVIYANIoTAVIYANIoYAAoPAVIYANIoJAVIYANIoCHAVIYANIoTTAAoHHAAoKHAAoTHAAL
  UoZAAoSHEENUpAADHUoDAADHUoTOoZOoAINUoGHAINUoQAAFUoWAAVUhABAFILIiABAAFILIhIBIFILIhEEBEEFILIhUBUFILI
  hOOBOOFILIhEBEFILIiYBEYFILIhOBOFILIiABOAFILIhSUKUNhLETTER NAA+7c0.aNKO DIGIT ZEROkONEkTWOlHREEkFOU
  RlIVEkSIXlEVENkEIGHTkNINEeLETTER AlEElIlElUlOOmlDAGBASINNAlNlBAlPAlTAlJAlCHAlDAlRAmRAlSAlGBAlFAlKA
  lLAlNA WOLOSOlMAlNYAmAlHAlWAlYAlNYA WOLOSOlJONA JAqCHAqRAeCOMBINING SHORT HIGH TONEuLOW TONEuRISIN
  G TONEoLONG DESCENDING TONEtHIGH TONEtLOW TONEtRISING TONEoNASALIZATION MARKoDOUBLE DOT ABOVEeHIGH
   TONE APOSTROPHEeLOW TONE APOSTROPHEeSYMBOL OO DENNENlGBAKURUNENeCOMMAeEXCLAMATION MARKeLAJANYALAN
  +7fd.eDANTAYALANfOROME SIGNeTAMAN SIGNaSAMARITAN LETTER ALAFrBITrGAMANrDALATrIYrBAArZENrITrTITrYUT
  rKAAFrLABATrMIMrNUNrSINGAATrINrFIrTSAADIYrQUFrRISHrSHANrTAAFkMARK INr-ALAFpOCCLUSIONpDAGESHlODIFIE
  R LETTER EPENTHETIC YUTlARK EPENTHETIC YUTkVOWEL SIGN LONG EvEvOVERLONG AAvLONG AAvAAvOVERLONG AvL
  ONG AvAkMODIFIER LETTER SHORT AkVOWEL SIGN SHORT AvLONG UvUkMODIFIER LETTER IkVOWEL SIGN LONG IvIv
  OvSUKUNkMARK NEQUDAA+830.kPUNCTUATION NEQUDAAwAFSAAQxNGEDwBAUwATMAAUwSHIYYAALAAkABBREVIATION MARKk
  PUNCTUATION MELODIC QITSAwZIQAAwQITSAwZAEFwTURUwARKAANUwSOF MASHFAATwANNAAU+840.aMANDAIC LETTER HA
  LQApABqGqDqHpUSHENNApAZpITpATTqKSArqLqMqNqSpINpAPqSZqQqRqSHqTpDUSHENNApKADpAINiAFFRICATION MARKiVO
  CALIZATION MARKiGEMINATION MARK+85e.iPUNCTUATION+860.aSYRIAC LETTER MALAYALAM NGAyJAyNYAyTTAyNNAzN
  NAyBHAyRAyLLAzLLAySSA+870.aARABIC LETTER ALEF WITH ATTACHED FATHAzTTACHED TOP RIGHT FATHAyRIGHT MI
  DDLE STROKEyLEFT MIDDLE STROKEyATTACHED KASRAzTTACHED BOTTOM RIGHT KASRAzTTACHED ROUND DOT ABOVEzT
  TACHED RIGHT ROUND DOTzTTACHED LEFT ROUND DOTzTTACHED ROUND DOT BELOWyDOT ABOVEyATTACHED TOP RIGHT
   FATHA AND DOT ABOVEyRIGHT MIDDLE STROKE AND DOT ABOVEyATTACHED BOTTOM RIGHT KASRA AND DOT ABOVEzT
  TACHED TOP RIGHT FATHA AND LEFT RINGyRIGHT MIDDLE STROKE AND LEFT RINGyATTACHED BOTTOM RIGHT KASRA
   AND LEFT RINGzTTACHED RIGHT HAMZAzTTACHED LEFT HAMZAhTATWEEL WITH OVERSTRUCK HAMZAzTRUCK WAWuTWO 
  DOTS BELOWhLETTER THIN YEHhBASELINE ROUND DOThRAISED ROUND DOThLETTER NOON WITH INVERTED SMALL VoH
  AH WITH INVERTED SMALL V BELOWoTAH WITH DOT BELOWxTHREE DOTS BELOWoKEHEH WITH TWO DOTS VERTICALLY 
  BELOWhVERTICAL TAIL+890.hPOUND MARK ABOVEiIASTRE MARK ABOVE+898.hSMALL HIGH WORD AL-JUZnLOW WORD I
  SHMAAMxMAALAwTASHEELhMADDA WAAJIBhSUPERSCRIPT ALEF MOKHASSAShDOUBLED MADDAhHALF MADDA OVER MADDAhL
  ETTER BEH WITH SMALL V BELOWxHAMZA ABOVEoJEEM WITH TWO DOTS ABOVEoTAH WITH TWO DOTS ABOVEoFEH WITH
   DOT BELOW AND THREE DOTS ABOVEoQAF WITH DOT BELOWoLAM WITH DOUBLE BARoMEEM WITH THREE DOTS ABOVEo
  YEH WITH TWO DOTS BELOW AND HAMZA ABOVEzO DOTS BELOW AND DOT ABOVEoREH WITH LOOPoWAW WITH DOT WITH
  INoROHINGYA YEHoLOW ALEFoDAL WITH THREE DOTS BELOWoSAD WITH THREE DOTS BELOWoGAF WITH INVERTED STR
  OKEoSTRAIGHT WAWoZAIN WITH INVERTED V ABOVEoAIN WITH THREE DOTS BELOWoKAF WITH DOT BELOWoQAF WITH 
  DOT BELOW AND NO DOTS ABOVEoBEH WITH SMALL MEEM ABOVEoPEH WITH SMALL MEEM ABOVEoTEH WITH SMALL TEH
   ABOVEoREH WITH SMALL NOON ABOVEoYEH WITH TWO DOTS BELOW AND SMALL NOON ABOVEoAFRICAN FEHwQAFwNOON
  oPEH WITH SMALL VoTEH WITH SMALL VpTEH WITH SMALL VpCHEH WITH SMALL VoKEHEH WITH SMALL VoGHAIN WIT
  H THREE DOTS ABOVEoAFRICAN QAF WITH THREE DOTS ABOVEoJEEM WITH THREE DOTS ABOVEzHREE DOTS BELOWoLA
  M WITH SMALL ARABIC LETTER TAH ABOVEoGRAFhSMALL FARSI YEHnHIGH FARSI YEHsYEH BARREE WITH TWO DOTS 
  BELOWsWORD SAHsZAHhLARGE ROUND DOT ABOVExBELOWhSUKUN BELOWhLARGE CIRCLE BELOWnROUND DOT INSIDE CIR
  CLE BELOWhSMALL LOW WAWnHIGH WORD AR-RUBsSADsAINsQAFsNOON WITH KASRAnLOW NOON WITH KASRAnHIGH WORD
   ATH-THALATHAyS-SAJDAyN-NISFxSAKTAxQIFxWAQFAsFOOTNOTE MARKERsSIGN SAFHAhDISPUTED END OF AYAHhTURNE
  D DAMMA BELOWhCURLY FATHAnDAMMAnKASRAnFATHATANnDAMMATANnKASRATANhTONE ONE DOT ABOVEmTWO DOTS ABOVE
  mLOOP ABOVEmONE DOT BELOWmTWO DOTS BELOWmLOOP BELOWhOPEN FATHATANmDAMMATANmKASRATANhSMALL HIGH WAW
  hFATHA WITH RINGsDOT ABOVEhKASRA WITH DOT BELOWhLEFT ARROWHEAD ABOVEhRIGHT ARROWHEAD ABOVEhLEFT AR
  ROWHEAD BELOWhRIGHT ARROWHEAD BELOWhDOUBLE RIGHT ARROWHEAD ABOVEzHEAD ABOVE WITH DOThRIGHT ARROWHE
  AD ABOVE WITH DOThDAMMA WITH DOThMARK SIDEWAYS NOON GHUNNAaDEVANAGARI SIGN INVERTED CANDRABINDUqCA
  NDRABINDUqANUSVARAqVISARGAlLETTER SHORT AsAtAsItIsUtUsVOCALIC Rz LsCANDRA EsSHORT EsEsAIsCANDRA Os
  SHORT OsOsAUsKAtHAsGAtHAsNGAsCAtHAsJAtHAsNYAsTTAuHAsDDAuHAsNNAsTAtHAsDAtHAsNAtNNAsPAtHAsBAtHAsMAsY
  AsRAtRAsLAtLAuLAsVAsSHAtSAtAsHAlVOWEL SIGN OExOElSIGN NUKTAqAVAGRAHAlVOWEL SIGN AAwIxIwUxUwVOCALIC
   RzALIC RRwCANDRA EwSHORT EwEwAIwCANDRA OwSHORT OwOwAUlSIGN VIRAMAlVOWEL SIGN PRISHTHAMATRA EwAWlO
  MlSTRESS SIGN UDATTAxANUDATTAlGRAVE ACCENTlACUTE ACCENTlVOWEL SIGN CANDRA LONG EwUExUElLETTER QAsK
  HHAsGHHAsZAsDDDHAsRHAsFAsYYAsVOCALIC RRz LLlVOWEL SIGN VOCALIC LzALIC LLlDANDAmOUBLE DANDAmIGIT ZE
  ROrONErTWOsHREErFOURsIVErSIXsEVENrEIGHTrNINElABBREVIATION SIGNlSIGN HIGH SPACING DOTlLETTER CANDRA
   AsOEtOEsAWsUEtUEsMARWARI DDAsZHAsHEAVY YAsGGAsJJAsGLOTTAL STOPsDDDAsBBAaBENGALI ANJIiSIGN CANDRAB
  INDUnANUSVARAnVISARGA+985.iLETTER AqApIqIpUqUpVOCALIC RxL+98f.pEpAI+993.pOpAUpKAqHApGAqHApNGApCAqH
  ApJAqHApNYApTTArHApDDArHApNNApTAqHApDAqHApNA+9aa.pPAqHApBAqHApMApYApRA+9b2.pLA+9b6.pSHAqSAqApHA+9b
  c.iSIGN NUKTAnAVAGRAHAiVOWEL SIGN AAtIuItUuUtVOCALIC RzC RR+9c7.tEtAI+9cb.tOtAUiSIGN VIRAMAiLETTER
   KHANDA TA+9d7.iAU LENGTH MARK+9dc.iLETTER RRAqHA+9df.pYYApVOCALIC RRxLLiVOWEL SIGN VOCALIC LzC LL
  +9e6.iDIGIT ZEROoONEoTWOpHREEoFOURpIVEoSIXpEVENoEIGHToNINEiLETTER RA WITH MIDDLE DIAGONALxLOWER DI
  AGONALiRUPEE MARKoSIGNiCURRENCY NUMERATOR ONEzR TWOzR THREEzR FOURzR ONE LESS THAN THE DENOMINATOR
  rDENOMINATOR SIXTEENiISSHARiGANDA MARKiLETTER VEDIC ANUSVARAiABBREVIATION SIGNiSANDHI MARK+a01.aGU
  RMUKHI SIGN ADAK BINDIoBINDIoVISARGA+a05.jLETTER ArAqIrIqUrU+a0f.qEEqAI+a13.qOOqAUqKArHAqGArHAqNGA
  qCArHAqJArHAqNYAqTTAsHAqDDAsHAqNNAqTArHAqDArHAqNA+a2a.qPArHAqBArHAqMAqYAqRA+a32.qLArLA+a35.qVAqSHA
  +a38.rAqHA+a3c.jSIGN NUKTA+a3e.jVOWEL SIGN AAuIvIuUvU+a47.uEEuAI+a4b.uOOuAUjSIGN VIRAMA+a51.oUDAAT
  +a59.jLETTER KHHAqGHHAqZAqRRA+a5e.qFA+a66.jDIGIT ZEROpONEpTWOqHREEpFOURqIVEpSIXqEVENpEIGHTpNINEjTI
  PPIjADDAKjIRIjURAjEK ONKARjSIGN YAKASHjABBREVIATION SIGN+a81.cJARATI SIGN CANDRABINDUoANUSVARAoVIS
  ARGA+a85.jLETTER ArAqIrIqUrUqVOCALIC RyLjVOWEL CANDRA E+a8f.jLETTER EqAIjVOWEL CANDRA O+a93.jLETTE
  R OqAUqKArHAqGArHAqNGAqCArHAqJArHAqNYAqTTAsHAqDDAsHAqNNAqTArHAqDArHAqNA+aaa.qPArHAqBArHAqMAqYAqRA+
  ab2.qLArLA+ab5.qVAqSHArSArAqHA+abc.jSIGN NUKTAoAVAGRAHAjVOWEL SIGN AAuIvIuUvUuVOCALIC RzIC RRuCAND
  RA E+ac7.uEuAIuCANDRA O+acb.uOuAUjSIGN VIRAMA+ad0.jOM+ae0.jLETTER VOCALIC RRyLLjVOWEL SIGN VOCALIC
   LzIC LL+ae6.jDIGIT ZEROpONEpTWOqHREEpFOURqIVEpSIXqEVENpEIGHTpNINEjABBREVIATION SIGNjRUPEE SIGN+af
  9.jLETTER ZHAjSIGN SUKUNpHADDAoMADDAHoTHREE-DOT NUKTA ABOVEoCIRCLE NUKTA ABOVEoTWO-CIRCLE NUKTA AB
  OVE+b01.aORIYA SIGN CANDRABINDUlANUSVARAlVISARGA+b05.gLETTER AoAnIoInUoUnVOCALIC RvL+b0f.nEnAI+b13
  .nOnAUnKAoHAnGAoHAnNGAnCAoHAnJAoHAnNYAnTTApHAnDDApHAnNNAnTAoHAnDAoHAnNA+b2a.nPAoHAnBAoHAnMAnYAnRA+
  b32.nLAoLA+b35.nVAnSHAoSAoAnHA+b3c.gSIGN NUKTAlAVAGRAHAgVOWEL SIGN AArIsIrUsUrVOCALIC RzRR+b47.rEr
  AI+b4b.rOrAUgSIGN VIRAMA+b55.lOVERLINEgAI LENGTH MARKhU LENGTH MARK+b5c.gLETTER RRAoHA+b5f.nYYAnVO
  CALIC RRvLLgVOWEL SIGN VOCALIC LzLL+b66.gDIGIT ZEROmONEmTWOnHREEmFOURnIVEmSIXnEVENmEIGHTmNINEgISSH
  ARgLETTER WAgFRACTION ONE QUARTERtHALFpTHREE QUARTERSpONE SIXTEENTHtEIGHTHpTHREE SIXTEENTHS+b82.aT
  AMIL SIGN ANUSVARAlVISARGA+b85.gLETTER AoAnIoInUoU+b8e.nEoEnAI+b92.nOoOnAUnKA+b99.nNGAnCA+b9c.nJA+
  b9e.nNYAnTTA+ba3.nNNAnTA+ba8.nNAoNNAnPA+bae.nMAnYAnRAoRAnLAoLApLAnVAnSHAoSAoAnHA+bbe.gVOWEL SIGN A
  ArIsIrUsU+bc6.rEsErAI+bca.rOsOrAUgSIGN VIRAMA+bd0.gOM+bd7.gAU LENGTH MARK+be6.gDIGIT ZEROmONEmTWOn
  HREEmFOURnIVEmSIXnEVENmEIGHTmNINEgNUMBER TENnONE HUNDREDrTHOUSANDgDAY SIGNgMONTH SIGNgYEAR SIGNgDE
  BIT SIGNgCREDIT SIGNgAS ABOVE SIGNgRUPEE SIGNgNUMBER SIGN+c00.bELUGU SIGN COMBINING CANDRABINDU AB
  OVEnANDRABINDUmANUSVARAmVISARGAmCOMBINING ANUSVARA ABOVEhLETTER ApAoIpIoUpUoVOCALIC RwL+c0e.oEpEoA
  I+c12.oOpOoAUoKApHAoGApHAoNGAoCApHAoJApHAoNYAoTTAqHAoDDAqHAoNNAoTApHAoDApHAoNA+c2a.oPApHAoBApHAoMA
  oYAoRApRAoLApLAqLAoVAoSHApSApAoHA+c3c.hSIGN NUKTAmAVAGRAHAhVOWEL SIGN AAsItIsUtUsVOCALIC Rz RR+c46
  .sEtEsAI+c4a.sOtOsAUhSIGN VIRAMA+c55.hLENGTH MARKhAI LENGTH MARK+c58.hLETTER TSAoDZAoRRRA+c5d.oNAK
  AARA POLLU+c60.oVOCALIC RRwLLhVOWEL SIGN VOCALIC Lz LL+c66.hDIGIT ZEROnONEnTWOoHREEnFOURoIVEnSIXoE
  VENnEIGHTnNINE+c77.hSIGN SIDDHAMhFRACTION DIGIT ZERO FOR ODD POWERS OF FOURwONE FOR ODD POWERS OF 
  FOURwTWO FOR ODD POWERS OF FOURxHREE FOR ODD POWERS OF FOURwONE FOR EVEN POWERS OF FOURwTWO FOR EV
  EN POWERS OF FOURxHREE FOR EVEN POWERS OF FOURhSIGN TUUMUaKANNADA SIGN SPACING CANDRABINDUnCANDRAB
  INDUnANUSVARAnVISARGAnSIDDHAMiLETTER AqApIqIpUqUpVOCALIC RxL+c8e.pEqEpAI+c92.pOqOpAUpKAqHApGAqHApN
  GApCAqHApJAqHApNYApTTArHApDDArHApNNApTAqHApDAqHApNA+caa.pPAqHApBAqHApMApYApRAqRApLAqLA+cb5.pVApSHA
  qSAqApHA+cbc.iSIGN NUKTAnAVAGRAHAiVOWEL SIGN AAtIuItUuUtVOCALIC RzC RR+cc6.tEuEtAI+cca.tOuOtAUiSIG
  N VIRAMA+cd5.iLENGTH MARKiAI LENGTH MARK+cdd.iLETTER NAKAARA POLLUpFA+ce0.pVOCALIC RRxLLiVOWEL SIG
  N VOCALIC LzC LL+ce6.iDIGIT ZEROoONEoTWOpHREEoFOURpIVEoSIXpEVENoEIGHToNINE+cf1.iSIGN JIHVAMULIYAnU
  PADHMANIYA+d00.aMALAYALAM SIGN COMBINING ANUSVARA ABOVEqANDRABINDUpANUSVARApVISARGAkLETTER VEDIC A
  NUSVARArAsArIsIrUsUrVOCALIC RzL+d0e.rEsErAI+d12.rOsOrAUrKAsHArGAsHArNGArCAsHArJAsHArNYArTTAtHArDDA
  tHArNNArTAsHArDAsHArNAsNNArPAsHArBAsHArMArYArRAsRArLAsLAtLArVArSHAsSAsArHArTTTAkSIGN VERTICAL BAR 
  VIRAMApCIRCULAR VIRAMApAVAGRAHAkVOWEL SIGN AAvIwIvUwUvVOCALIC RzLIC RR+d46.vEwEvAI+d4a.vOwOvAUkSIG
  N VIRAMAkLETTER DOT REPHkSIGN PARA+d54.kLETTER CHILLU MyYyLLLkAU LENGTH MARKkFRACTION ONE ONE-HUND
  RED-AND-SIXTIETHxFORTIETHtTHREE EIGHTIETHStONE TWENTIETHyENTHtTHREE TWENTIETHStONE FIFTHkLETTER AR
  CHAIC IIrVOCALIC RRzLLkVOWEL SIGN VOCALIC LzLIC LL+d66.kDIGIT ZEROqONEqTWOrHREEqFOURrIVEqSIXrEVENq
  EIGHTqNINEkNUMBER TENrONE HUNDREDvTHOUSANDkFRACTION ONE QUARTERxHALFtTHREE QUARTERStONE SIXTEENTHx
  EIGHTHtTHREE SIXTEENTHSkDATE MARKkLETTER CHILLU NNzyRRyLzLyK+d81.aSINHALA SIGN CANDRABINDUnANUSVAR
  AYAnVISARGAYA+d85.iLETTER AYANNAqAYANNAqEYANNArEYANNApIYANNAqIYANNApUYANNAqUYANNApIRUYANNAsUYANNAq
  LUYANNAsUYANNApEYANNAqEYANNApAIYANNApOYANNAqOYANNApAUYANNA+d9a.qLPAPRAANA KAYANNApMAHAAPRAANA KAYA
  NNApALPAPRAANA GAYANNApMAHAAPRAANA GAYANNApKANTAJA NAASIKYAYApSANYAKA GAYANNApALPAPRAANA CAYANNApM
  AHAAPRAANA CAYANNApALPAPRAANA JAYANNApMAHAAPRAANA JAYANNApTAALUJA NAASIKYAYAxSANYOOGA NAAKSIKYAYAp
  SANYAKA JAYANNApALPAPRAANA TTAYANNApMAHAAPRAANA TTAYANNApALPAPRAANA DDAYANNApMAHAAPRAANA DDAYANNAq
  UURDHAJA NAYANNApSANYAKA DDAYANNApALPAPRAANA TAYANNApMAHAAPRAANA TAYANNApALPAPRAANA DAYANNApMAHAAP
  RAANA DAYANNApDANTAJA NAYANNA+db3.pSANYAKA DAYANNApALPAPRAANA PAYANNApMAHAAPRAANA PAYANNApALPAPRAA
  NA BAYANNApMAHAAPRAANA BAYANNArYANNApAMBA BAYANNApYAYANNApRAYANNA+dbd.pDANTAJA LAYANNA+dc0.pVAYANN
  ApTAALUJA SAYANNApMUURDHAJA SAYANNApDANTAJA SAYANNApHAYANNApMUURDHAJA LAYANNApFAYANNA+dca.iSIGN AL
  -LAKUNA+dcf.iVOWEL SIGN AELA-PILLAtKETTI AEDA-PILLAtDIGA AEDA-PILLAtKETTI IS-PILLAtDIGA IS-PILLAtK
  ETTI PAA-PILLA+dd6.tDIGA PAA-PILLA+dd8.tGAETTA-PILLAtKOMBUVAtDIGA KOMBUVAtKOMBU DEKAyVA HAA AELA-P
  ILLAzA HAA DIGA AELA-PILLAzA HAA GAYANUKITTAtGAYANUKITTA+de6.iLITH DIGIT ZEROtONEtTWOuHREEtFOURuIV
  EtSIXuEVENtEIGHTtNINE+df2.iVOWEL SIGN DIGA GAETTA-PILLAzAYANUKITTAiPUNCTUATION KUNDDALIYA+e01.aTHA
  I CHARACTER KO KAIqHO KHAIvUATvWAIvONtRAKHANGpNGO NGUpCHO CHANvINGvANGpSO SOpCHO CHOEpYO YINGpDO C
  HADApTO PATAKqHO THANtNANGMONTHOtPHUTHAOpNO NENpDO DEKpTO TAOqHO THUNGvAHANvONGpNO NUpBO BAIMAIpPO
   PLAqHO PHUNGpFO FApPHO PHANpFO FANpPHO SAMPHAOpMO MApYO YAKpRO RUAqUpLO LINGqUpWO WAENpSO SALAsRU
  SIsSUApHO HIPpLO CHULApO ANGpHO NOKHUKpPAIYANNOIpSARA ApMAI HAN-AKATpSARA AAvMuIvIuUEwEvvUpPHINTHU
  +e3f.gURRENCY SYMBOL BAHTgHARACTER SARA EuAEuOuAI MAIMUANzIMALAIpLAKKHANGYAOpMAIYAMOKsTAIKHUs EKtT
  HOuRItCHATTAWApTHANTHAKHATpNIKHAHITpYAMAKKANpFONGMANfDIGIT ZEROlONElTWOmHREElFOURmIVElSIXmEVENlEIG
  HTlNINEfCHARACTER ANGKHANKHUpKHOMUT+e81.aLAO LETTER KOmHO SUNG+e84.pTAM+e86.lPALI GHAlNGOlCOlPALI 
  CHAlSO TAM+e8c.lPALI JHAlNYOlPALI NYAqTTAsHAqDDAsHAqNNAlDOlTOmHO SUNGpTAMlPALI DHAlNOlBOlPOmHO SUN
  GlFO TAMlPHO TAMlFO SUNGlPALI BHAlMOlYOlLO LING+ea5.pOOT+ea7.lWOlSANSKRIT SHAvSAmO SUNGlHO SUNGlPA
  LI LLAlOlHO TAMeELLIPSISeVOWEL SIGN ApMAI KANpAAqMpIqIpYqYpUqUeSIGN PALI VIRAMAeVOWEL SIGN MAI KON
  eSEMIVOWEL SIGN LOtNYO+ec0.eVOWEL SIGN EqIpOpAYqI+ec6.eKO LA+ec8.eTONE MAI EKnTHOoInCATAWAeCANCELL
  ATION MARKeNIGGAHITA+ed0.eDIGIT ZEROkONEkTWOlHREEkFOURlIVEkSIXlEVENkEIGHTkNINE+edc.eHO NOhMOeLETTE
  R KHMU GOqNYO+f00.aTIBETAN SYLLABLE OMiMARK GTER YIG MGO TRUNCATED Az -UM RNAM BCAD MAz -UM GTER T
  SHEG MAnINITIAL YIG MGO MDUN MAnCLOSING YIG MGO SGAB MAoARET YIG MGO PHUR SHAD MAnYIG MGO TSHEG SH
  AD MAnSBRUL SHADnBSKUR YIG MGOoKA- SHOG YIG MGOnINTERSYLLABIC TSHEGnDELIMITER TSHEG BSTARnSHADnNYI
  S SHADnTSHEG SHADnNYIS TSHEG SHADnRIN CHEN SPUNGS SHADoGYA GRAM SHADnCARET -DZUD RTAGS ME LONG CAN
  nGTER TSHEGiLOGOTYPE SIGN CHAD RTAGSwLHAG RTAGSiASTROLOGICAL SIGN SGRA GCAN -CHAR RTAGSz -KHYUD PA
  z SDONG TSHUGSiSIGN RDEL DKAR GCIGyNYISySUMsNAG GCIGxNYISsDKAR RDEL NAGiDIGIT ZEROoONEoTWOpHREEoFO
  URpIVEoSIXpEVENoEIGHToNINEoHALF ONEtTWOuHREEtFOURuIVEtSIXuEVENtEIGHTtNINEtZEROiMARK BSDUS RTAGSnNG
  AS BZUNG NYI ZLAnCARET -DZUD RTAGS BZHI MIG CANnNGAS BZUNG SGOR RTAGSnCHE MGOnTSA -PHRUnGUG RTAGS 
  GYONzASnANG KHANG GYONzASiSIGN YAR TSHESnMAR TSHESiLETTER KAqHApGAqHApNGApCAqHApJA+f49.pNYApTTArHA
  pDDArHApNNApTAqHApDAqHApNApPAqHApBAqHApMApTSArHApDZArHApWApZHAqAp-ApYApRApLApSHAqSAqApHApApKSSApFI
  XED-FORM RApKKApRRA+f71.iVOWEL SIGN AAtIuItUuUtVOCALIC RzC RRzC LzC LLtEuEtOuOiSIGN RJES SU NGA RO
  oNAM BCADiVOWEL SIGN REVERSED IzED IIiSIGN NYI ZLA NAA DAnSNA LDANiMARK HALANTAnPALUTAiSIGN LCI RT
  AGSnYANG RTAGSnLCE TSA CANnMCHU CANnGRU CAN RGYINGSrMED RGYINGSnINVERTED MCHU CANjUBJOINED SIGN LC
  E TSA CANxMCHU CANxINVERTED MCHU CANsLETTER KAzKHAzGAzGHAzNGAzCAzCHAzJA+f99.zNYAzTTAzTTHAzDDAzDDHA
  zNNAzTAzTHAzDAzDHAzNAzPAzPHAzBAzBHAzMAzTSAzTSHAzDZAzDZHAzWAzZHAzZAz-AzYAzRAzLAzSHAzSSAzSAzHAzAzKSS
  AzFIXED-FORM WAzFIXED-FORM YAzFIXED-FORM RA+fbe.iKU RU KHAr BZHI MIG CANiCANTILLATION SIGN HEAVY B
  EATz LIGHT BEATz CANG TE-Uz SBUB -CHALiSYMBOL DRIL BUpRDO RJEpPADMA GDANpRDO RJE RGYA GRAMpPHUR PA
  pNOR BUv NYIS -KHYILwGSUM -KHYILwBZHI -KHYIL+fce.jIGN RDEL NAG RDEL DKARwGSUMiMARK BSKA- SHOG GI M
  GO RGYANnMNYAM YIG GI MGO RGYANnNYIS TSHEGnINITIAL BRDA RNYING YIG MGO MDUN MAnCLOSING BRDA RNYING
   YIG MGO SGAB MAaRIGHT-FACING SVASTI SIGNaLEFT-FACING SVASTI SIGNaRIGHT-FACING SVASTI SIGN WITH DO
  TSaLEFT-FACING SVASTI SIGN WITH DOTSaTIBETAN MARK LEADING MCHAN RTAGSnTRAILING MCHAN RTAGS+1000.aM
  YANMAR LETTER KAqHApGAqHApNGApCAqHApJAqHApNYAqNYApTTArHApDDArHApNNApTAqHApDAqHApNApPAqHApBAqHApMAp
  YApRApLApWApSApHApLLApApSHAN ApIqIpUqUpEpMON EpOpAUiVOWEL SIGN TALL AAtAAtIuItUuUtEtAItMON IIxOtE 
  ABOVEiSIGN ANUSVARAnDOT BELOWnVISARGApRAMAnASATiCONSONANT SIGN MEDIAL YAzDIAL RAzDIAL WAzDIAL HAiL
  ETTER GREAT SAiDIGIT ZEROoONEoTWOpHREEoFOURpIVEoSIXpEVENoEIGHToNINEiSIGN LITTLE SECTIONnSECTIONjYM
  BOL LOCATIVEpCOMPLETEDpAFOREMENTIONEDpGENITIVEiLETTER SHAqSApVOCALIC RyRxLyLiVOWEL SIGN VOCALIC Rz
  C RRzC LzC LLiLETTER MON NGAtJHAtBBAvEiCONSONANT SIGN MON MEDIAL NAzN MEDIAL MAzN MEDIAL LAiLETTER
   SGAW KAREN SHAiVOWEL SIGN SGAW KAREN EUiTONE MARK SGAW KAREN HATHIzREN KE PHOiLETTER WESTERN PWO 
  KAREN THAzO KAREN PWAiVOWEL SIGN WESTERN PWO KAREN EUzN PWO KAREN UEiSIGN WESTERN PWO KAREN TONE-1
  zKAREN TONE-2zKAREN TONE-3zKAREN TONE-4zKAREN TONE-5iLETTER EASTERN PWO KAREN NNAzO KAREN YWAzO KA
  REN GHWAiVOWEL SIGN GEBA KAREN ItKAYAH OEzUzEEiLETTER SHAN KAvHAuGAuCAuZAuNYAuDAuNAuPHAuFAuBAuTHAu
  HAiCONSONANT SIGN SHAN MEDIAL WAiVOWEL SIGN SHAN AAyEz ABOVEyFINAL YiSIGN SHAN TONE-2x3x5x6sCOUNCI
  L TONE-2z TONE-3z EMPHATIC TONEiLETTER RUMAI PALAUNG FAiSIGN RUMAI PALAUNG TONE-5jHAN DIGIT ZEROtO
  NEtTWOuHREEtFOURuIVEtSIXuEVENtEIGHTtNINEjIGN KHAMTI TONE-1z3iVOWEL SIGN AITON AzAIiSYMBOL SHAN ONE
  uEXCLAMATIONaGEORGIAN CAPITAL LETTER ANyBANyGANyDONyENyVINyZENyTANyINyKANyLASyMANyNARyONyPARyZHARy
  RAEySANyTARyUNyPHARyKHARyGHANyQARySHINyCHINzANyJILyCILzHARyXANyJHANyHAEzEzIEyWEyHARzOE+10c7.yYN+10
  cd.yAEN+10d0.jLETTER ANqBANqGANqDONqENqVINqZENqTANqINqKANqLASqMANqNARqONqPARqZHARqRAEqSANqTARqUNqP
  HARqKHARqGHANqQARqSHINqCHINrANqJILqCILrHARqXANqJHANqHAErErIEqWEqHARrOEqFIqYNqELIFIqTURNED GANqAINj
  PARAGRAPH SEPARATORaMODIFIER LETTER GEORGIAN NARaGEORGIAN LETTER AENqHARD SIGNqLABIAL SIGNaHANGUL 
  CHOSEONG KIYEOKqSSANGKIYEOKqNIEUNqTIKEUTqSSANGTIKEUTqRIEULqMIEUMqPIEUPqSSANGPIEUPrIOSrSANGSIOSqIEU
  NGqCIEUCqSSANGCIEUCqCHIEUCHqKHIEUKHqTHIEUTHqPHIEUPHqHIEUHqNIEUN-KIYEOKqSSANGNIEUNqNIEUN-TIKEUTwPIE
  UPqTIKEUT-KIYEOKqRIEUL-NIEUNqSSANGRIEULqRIEUL-HIEUHqKAPYEOUNRIEULqMIEUM-PIEUPqKAPYEOUNMIEUMqPIEUP-
  KIYEOKwNIEUNwTIKEUTwSIOSzS-KIYEOKzS-TIKEUTzS-PIEUPxSANGSIOSxIOS-CIEUCwCIEUCxHIEUCHwTHIEUTHwPHIEUPH
  qKAPYEOUNPIEUPySSANGPIEUPqSIOS-KIYEOKvNIEUNvTIKEUTvRIEULvMIEUMvPIEUPzP-KIYEOKvSSANGSIOSvIEUNGvCIEU
  CwHIEUCHvKHIEUKHvTHIEUTHvPHIEUPHvHIEUHqCHITUEUMSIOSzSANGSIOSrEONGCHIEUMSIOSzUMSSANGSIOSqPANSIOSqIE
  UNG-KIYEOKwTIKEUTwMIEUMwPIEUPwSIOSwPANSIOSqSSANGIEUNGqIEUNG-CIEUCxHIEUCHwTHIEUTHwPHIEUPHqYESIEUNGq
  CIEUC-IEUNGrHITUEUMCIEUCySSANGCIEUCrEONGCHIEUMCIEUCzUMSSANGCIEUCrHIEUCH-KHIEUKHyHIEUHtTUEUMCHIEUCH
  rEONGCHIEUMCHIEUCHqPHIEUPH-PIEUPqKAPYEOUNPHIEUPHqSSANGHIEUHqYEORINHIEUHqKIYEOK-TIKEUTqNIEUN-SIOSwC
  IEUCwHIEUHqTIKEUT-RIEULqFILLERhJUNGSEONG FILLERrAsErYAtErEOsrYEOtrOrWAtErOErYOrUrWEOtsIrYUrEUrYIrI
  rA-OtUrYA-OuYOrEO-OuUuEUrYEO-OvUrO-EOutYEtOtUrYO-YAwEvEOuOuIrU-AuEtEO-EUtYEtUrYU-AuEOvuYEOwuUuIrEU
  -UuEUrYI-UrI-AtYAtOtUtEUtARAEArARAEAw-EOxUxIrSSANGARAEArA-EUrYA-UsEO-YArO-YAvEiONGSEONG KIYEOKrSSA
  NGKIYEOKrKIYEOK-SIOSrNIEUNw-CIEUCxHIEUHrTIKEUTrRIEULw-KIYEOKxMIEUMxPIEUPxSIOSxTHIEUTHxPHIEUPHxHIEU
  HrMIEUMrPIEUPw-SIOSrSIOSsSANGSIOSrIEUNGrCIEUCsHIEUCHrKHIEUKHrTHIEUTHrPHIEUPHrHIEUHrKIYEOK-RIEULySI
  OS-KIYEOKrNIEUN-KIYEOKxTIKEUTxSIOSxPANSIOSxTHIEUTHrTIKEUT-KIYEOKyRIEULrRIEUL-KIYEOK-SIOSxNIEUNxTIK
  EUTzKEUT-HIEUHrSSANGRIEULrRIEUL-MIEUM-KIYEOKzEUM-SIOSxPIEUP-SIOSzEUP-HIEUHxKAPYEOUNPIEUPxSSANGSIOS
  xPANSIOSxKHIEUKHxYEORINHIEUHrMIEUM-KIYEOKxRIEULxPIEUPxSIOSySANGSIOSxPANSIOSxCHIEUCHxHIEUHrKAPYEOUN
  MIEUMrPIEUP-RIEULxPHIEUPHxHIEUHrKAPYEOUNPIEUPrSIOS-KIYEOKwTIKEUTwRIEULwPIEUPrPANSIOSrIEUNG-KIYEOKx
  SSANGKIYEOKrSSANGIEUNGrIEUNG-KHIEUKHrYESIEUNGz-SIOSz-PANSIOSrPHIEUPH-PIEUPrKAPYEOUNPHIEUPHrHIEUH-N
  IEUNxRIEULxMIEUMxPIEUPrYEORINHIEUHrKIYEOK-NIEUNyPIEUPyCHIEUCHyKHIEUKHyHIEUHrSSANGNIEUNaETHIOPIC SY
  LLABLE HAtUtItAAtEEutOuAsLAtUtItAAtEEutOtWAsHHAuUuIuAAuEEvuOuWAsMAtUtItAAtEEutOtWAsSZAuUuIuAAuEEvu
  OuWAsRAtUtItAAtEEutOtWAsSAtUtItAAtEEutOtWAtHAuUuIuAAuEEvuOuWAsQAtUtItAAtEEutOuAtWA+124a.uIuAAuEEv+
  1250.tHAuUuIuAAuEEvuO+1258.uWA+125a.vIvAAvEEw+1260.sBAtUtItAAtEEutOtWAsVAtUtItAAtEEutOtWAsTAtUtItA
  AtEEutOtWAsCAtUtItAAtEEutOtWAsXAtUtItAAtEEutOuAtWA+128a.uIuAAuEEv+1290.sNAtUtItAAtEEutOtWAtYAuUuIu
  AAuEEvuOuWAsGLOTTAL Az Uz Iz AAz EEz Ez Oz WAsKAtUtItAAtEEutOuAtWA+12b2.uIuAAuEEv+12b8.tXAuUuIuAAu
  EEvuO+12c0.uWA+12c2.vIvAAvEEw+12c8.sWAtUtItAAtEEutOuAsPHARYNGEAL AzEAL UzEAL IzEAL AAzEAL EEzEAL E
  zEAL O+12d8.sZAtUtItAAtEEutOtWAtHAuUuIuAAuEEvuOuWAsYAtUtItAAtEEutOuAsDAtUtItAAtEEutOtWAtDAuUuIuAAu
  EEvuOuWAsJAtUtItAAtEEutOtWAsGAtUtItAAtEEutOuAtWA+1312.uIuAAuEEv+1318.tGAuUuIuAAuEEvuOuWAAsTHAuUuIu
  AAuEEvuOuWAsCHAuUuIuAAuEEvuOuWAsPHAuUuIuAAuEEvuOuWAsTSAuUuIuAAuEEvuOuWAtZAuUuIuAAuEEvuOvAsFAtUtItA
  AtEEutOtWAsPAtUtItAAtEEutOtWAsRYAsMYAsFYA+135d.jCOMBINING GEMINATION AND VOWEL LENGTH MARKtVOWEL L
  ENGTH MARKtGEMINATION MARKjSECTION MARKjWORDSPACEjFULL STOPjCOMMAjSEMICOLONjCOLONjPREFACE COLONjQU
  ESTION MARKjPARAGRAPH SEPARATORjDIGIT ONEpTWOqHREEpFOURqIVEpSIXqEVENpEIGHTpNINEjNUMBER TENrWENTYrH
  IRTYqFORTYrIFTYqSIXTYrEVENTYqEIGHTYqNINETYqHUNDREDqTEN THOUSAND+1380.jSYLLABLE SEBATBEIT MWAsMWIuE
  EvsSEBATBEIT BWAsBWIuEEvsSEBATBEIT FWAsFWIuEEvsSEBATBEIT PWAsPWIuEEvjTONAL MARK YIZETuDERETuRIKRIK
  uSHORT RIKRIKuDIFATuKENATuCHIRETuHIDETuDERET-HIDETuKURT+13a0.aCHEROKEE LETTER AqEqIqOqUqVqGAqKAqGE
  rIrOrUrVqHArErIrOrUrVqLArErIrOrUrVqMArErIrOrUqNAqHNAqNAHrErIrOrUrVqQUAsEsIsOsUsVqSArrErIrOrUrVqDAq
  TAqDEqTEqDIqTIqDOrUrVrLAqTLAsEsIsOsUsVrSAsEsIsOsUsVqWArErIrOrUrVqYArErIrOrUrVqMV+13f8.jSMALL LETTE
  R YExIxOxUxVwMV+1400.bANADIAN SYLLABICS HYPHENtEtAAItIuItOuOtY-CREE OOtCARRIER EEzR ItAuAtWEvST-CR
  EE WEuIuEST-CREE WIuIIuEST-CREE WIIuOuEST-CREE WOuOOuEST-CREE WOOtNASKAPI WOOtWAuEST-CREE WAuAAuES
  T-CREE WAAtNASKAPI WAAtAItY-CREE WtGLOTTAL STOPtFINAL ACUTEzGRAVEzBOTTOM HALF RINGzTOP HALF RINGzR
  IGHT HALF RINGzRINGzDOUBLE ACUTEzDOUBLE SHORT VERTICAL STROKESzMIDDLE DOTzSHORT HORIZONTAL STROKEz
  PLUSzDOWN TACKtENtINtONtANtPEuAAIuIvIuOvOtY-CREE POOtCARRIER HEEzR HItPAvAuWEtWEST-CREE PWEtPWItWE
  ST-CREE PWItPWIItWEST-CREE PWIItPWOtWEST-CREE PWOtPWOOtWEST-CREE PWOOtPWAtWEST-CREE PWAtPWAAtWEST-
  CREE PWAAtY-CREE PWAAtPtWEST-CREE PtCARRIER HtTEuAAIuIvIuOvOtY-CREE TOOtCARRIER DEEzR DItTAvAuWEtW
  EST-CREE TWEtTWItWEST-CREE TWItTWIItWEST-CREE TWIItTWOtWEST-CREE TWOtTWOOtWEST-CREE TWOOtTWAtWEST-
  CREE TWAtTWAAtWEST-CREE TWAAtNASKAPI TWAAtTuTEvIvOvAtKEuAAIuIvIuOvOtY-CREE KOOtKAvAuWEtWEST-CREE K
  WEtKWItWEST-CREE KWItKWIItWEST-CREE KWIItKWOtWEST-CREE KWOtKWOOtWEST-CREE KWOOtKWAtWEST-CREE KWAtK
  WAAtWEST-CREE KWAAtNASKAPI KWAAtKuWtSOUTH-SLAVEY KEHzSLAVEY KIHzSLAVEY KOHzSLAVEY KAHtCEuAAIuIvIuO
  vOtY-CREE COOtCAvAuWEtWEST-CREE CWEtCWItWEST-CREE CWItCWIItWEST-CREE CWIItCWOtWEST-CREE CWOtCWOOtW
  EST-CREE CWOOtCWAtWEST-CREE CWAtCWAAtWEST-CREE CWAAtNASKAPI CWAAtCtSAYISI THtMEuAAIuIvIuOvOtY-CREE
   MOOtMAvAuWEtWEST-CREE MWEtMWItWEST-CREE MWItMWIItWEST-CREE MWIItMWOtWEST-CREE MWOtMWOOtWEST-CREE 
  MWOOtMWAtWEST-CREE MWAtMWAAtWEST-CREE MWAAtNASKAPI MWAAtMtWEST-CREE MtMHtATHAPASCAN MtSAYISI MtNEu
  AAIuIvIuOvOtY-CREE NOOtNAvAuWEtWEST-CREE NWEtNWAtWEST-CREE NWAtNWAAtWEST-CREE NWAAtNASKAPI NWAAutC
  ARRIER NGtNHtLEuAAIuIvIuOvOtY-CREE LOOtLAvAuWEtWEST-CREE LWEtLWItWEST-CREE LWItLWIItWEST-CREE LWII
  tLWOtWEST-CREE LWOtLWOOtWEST-CREE LWOOtLWAtWEST-CREE LWAtLWAAtWEST-CREE LWAAtLtWEST-CREE LtMEDIAL 
  LtSEuAAIuIvIuOvOtY-CREE SOOtSAvAuWEtWEST-CREE SWEtSWItWEST-CREE SWItSWIItWEST-CREE SWIItSWOtWEST-C
  REE SWOtSWOOtWEST-CREE SWOOtSWAtWEST-CREE SWAtSWAAtWEST-CREE SWAAtNASKAPI SWAAtStATHAPASCAN StSWtB
  LACKFOOT StMOOSE-CREE SKtNASKAPI SKWzI S-WzI SPWAzI STWAzI SKWAzI SCWAtSHEvIwIvOwOvAwAvWEtWEST-CRE
  E SHWEtSHWItWEST-CREE SHWItSHWIItWEST-CREE SHWIItSHWOtWEST-CREE SHWOtSHWOOtWEST-CREE SHWOOtSHWAtWE
  ST-CREE SHWAtSHWAAtWEST-CREE SHWAAtSHtYEuAAIuIvIuOvOu-CREE YOOuAvAuWEtWEST-CREE YWEtYWItWEST-CREE 
  YWItYWIItWEST-CREE YWIItYWOtWEST-CREE YWOtYWOOtWEST-CREE YWOOtYWAtWEST-CREE YWAtYWAAtWEST-CREE YWA
  AtNASKAPI YWAAtYtBIBLE-CREE YtWEST-CREE YtSAYISI YItREu-CREE REtWEST-CREE LEtRAAIuIvIuOvOtWEST-CRE
  E LOtRAvAtWEST-CREE LAtRWAAtWEST-CREE RWAAtRtWEST-CREE RtMEDIAL RtFEuAAIuIvIuOvOuAvAuWAAtWEST-CREE
   FWAAtFtTHEtN-CREE THEtTHItN-CREE THItTHIItN-CREE THIItTHOwOvAwAvWAAtWEST-CREE THWAAtTHuTHEwIwOwAw
  uYEvIvOvAtNUNAVIK HEzK HIzK HIIzK HOzK HOOzK HAzK HAAzK HyUT HtHKtQAAIuIvIuOvOuAvAutTLHEwIwOwAtWES
  T-CREE REzREE RIzREE ROzREE RAtNGAAIvIwIvOwOvAwAvuNGtSAYISI SHEz SHIz SHOz SHAtWOODS-CREE THEzCREE
   THIzCREE THOzCREE THAzCREE THtLHIwIvOwOvAwAvtTH-CREE THEzE THIzE THIIzE THOzE THOOzE THAzE THAAzE
   THtAIVILIK BtBLACKFOOT EzOOT IzOOT OzOOT AzOOT WEzOOT WIzOOT WOzOOT WAzOOT NEzOOT NIzOOT NOzOOT N
  AzOOT KEzOOT KIzOOT KOzOOT KAtSAYISI HEz HIz HOz HAtCARRIER GHUzR GHOzR GHEzR GHEEzR GHIzR GHAzR R
  UzR ROzR REzR REEzR RIzR RAzR WUzR WOzR WEzR WEEzR WIzR WAzR HWUzR HWOzR HWEzR HWEEzR HWIzR HWAzR 
  THUzR THOzR THEzR THEEzR THIzR THAzR TTUzR TTOzR TTEzR TTEEzR TTIzR TTAzR PUzR POzR PEzR PEEzR PIz
  R PAzR PzR GUzR GOzR GEzR GEEzR GIzR GAzR KHUzR KHOzR KHEzR KHEEzR KHIzR KHAzR KKUzR KKOzR KKEzR K
  KEEzR KKIzR KKAzR KKzR NUzR NOzR NEzR NEEzR NIzR NAzR MUzR MOzR MEzR MEEzR MIzR MAzR YUzR YOzR YEz
  R YEEzR YIzR YAzR JUtSAYISI JUtCARRIER JOzR JEzR JEEzR JItSAYISI JItCARRIER JAzR JJUzR JJOzR JJEzR
   JJEEzR JJIzR JJAzR LUzR LOzR LEzR LEEzR LIzR LAzR DLUzR DLOzR DLEzR DLEEzR DLIzR DLAzR LHUzR LHOz
  R LHEzR LHEEzR LHIzR LHAzR TLHUzR TLHOzR TLHEzR TLHEEzR TLHIzR TLHAzR TLUzR TLOzR TLEzR TLEEzR TLI
  zR TLAzR ZUzR ZOzR ZEzR ZEEzR ZIzR ZAzR ZzR INITIAL ZzR DZUzR DZOzR DZEzR DZEEzR DZIzR DZAzR SUzR 
  SOzR SEzR SEEzR SIzR SAzR SHUzR SHOzR SHEzR SHEEzR SHIzR SHAzR SHzR TSUzR TSOzR TSEzR TSEEzR TSIzR
   TSAzR CHUzR CHOzR CHEzR CHEEzR CHIzR CHAzR TTSUzR TTSOzR TTSEzR TTSEEzR TTSIzR TTSAuHI SIGNtFULL 
  STOPtQAItNGAIuNGIxIwOxOwAxAtWOODS-CREE THWEEzCREE THWIzCREE THWIIzCREE THWOzCREE THWOOzCREE THWAzC
  REE THWAAzCREE FINAL THtBLACKFOOT WaOGHAM SPACE MARKgLETTER BEITHnLUISnFEARNnSAILnNIONnUATHnDAIRnT
  INNEnCOLLoEIRTnMUINnGORTnNGEADALnSTRAIFnRUISnAILMnONNnURnEADHADHnIODHADHnEABHADHnORnUILLEANNnIFINn
  EAMHANCHOLLnPEITHgFEATHER MARKgREVERSED FEATHER MARK+16a0.aRUNIC LETTER FEHU FEOH FE FnVnURUZ UR U
  nYRonWnTHURISAZ THURS THORNnETHnANSUZ AnOS OnAC AoESCnLONG-BRANCH-OSS OnSHORT-TWIG-OSS OnOoEoNnRAI
  DO RAD REID RnKAUNAnCENnKAUN KnGnENGnGEBO GYFU GoARnWUNJO WYNN WnHAGLAZ HpEGL HnLONG-BRANCH-HAGALL
   HnSHORT-TWIG-HAGALL HnNAUDIZ NYD NAUD NnSHORT-TWIG-NAUD NnDOTTED-NnISAZ IS ISS InEnJERAN JnGERnLO
  NG-BRANCH-AR AEnSHORT-TWIG-AR AnIWAZ EOHnPERTHO PEORTH PnALGIZ EOLHXnSOWILO SoIGEL LONG-BRANCH-SOL
   SoHORT-TWIG-SOL SnCnZnTIWAZ TIR TYR TnSHORT-TWIG-TYR TnDnBERKANAN BEORC BJARKAN BnSHORT-TWIG-BJAR
  KAN BnDOTTED-PnOPEN-PnEHWAZ EH EnMANNAZ MAN MnLONG-BRANCH-MADR MnSHORT-TWIG-MADR MnLAUKAZ LAGU LOG
  R LnDOTTED-LnINGWAZqnDAGAZ DAEG DnOTHALAN ETHEL OnEARnIORnCWEORTHoALCoEALCnSTANnLONG-BRANCH-YRnSHO
  RT-TWIG-YRnICELANDIC-YRnQnXgSINGLE PUNCTUATIONgMULTIPLE PUNCTUATIONgCROSS PUNCTUATIONgARLAUG SYMBO
  LgTVIMADUR SYMBOLgBELGTHOR SYMBOLgLETTER KnSHnOOnFRANKS CASKET OSzT ISzT EHzT ACzT AESC+1700.aTAGA
  LOG LETTER ApIpUpKApGApNGApTApDApNApPApBApMApYApRApLApWApSApHAiVOWEL SIGN ItUiSIGN VIRAMAnPAMUDPOD
  +171f.iLETTER ARCHAIC RAaHANUNOO LETTER ApIpUpKApGApNGApTApDApNApPApBApMApYApRApLApWApSApHAiVOWEL 
  SIGN ItUiSIGN PAMUDPODaPHILIPPINE SINGLE PUNCTUATIONlDOUBLE PUNCTUATION+1740.aBUHID LETTER AnInUnK
  AnGAnNGAnTAnDAnNAnPAnBAnMAnYAnRAnLAnWAnSAnHAgVOWEL SIGN IrU+1760.aTAGBANWA LETTER AqIqUqKAqGAqNGAq
  TAqDAqNAqPAqBAqMAqYA+176e.qLAqWAqSA+1772.jVOWEL SIGN IuU+1780.aKHMER LETTER KAoHAoOoHOnNGOnCAoHAoO
  oHOnNYOnDAnTTHAnDOnTTHOnNNOnTAoHAoOoHOnNOnBAnPHAoOoHOnMOnYOnROnLOnVOnSHAoSOoAnHAnLAnQAgINDEPENDENT
   VOWEL QAQzAAzIzIIzUzUKzUUzUUVyRYzYYyLYzYYyQEzAIzOO TYPE ONEzOO TYPE TWOzAUgVOWEL INHERENT AQwAmSI
  GN AArIsIrYsYrUsUsArOErYArIErErAEsIrOOrAUgSIGN NIKAHITlREAHMUKlYUUKALEAPINTUlMUUSIKATOANlTRIISAPlB
  ANTOClROBATlTOANDAKHIATlKAKABATlAHSDAlSAMYOK SANNYAlVIRIAMlCOENGlBATHAMASATlKHANlBARIYOOSANlCAMNUC
   PII KUUHlLEK TOOlBEYYALlPHNAEK MUANlKOOMUUTgCURRENCY SYMBOL RIELgSIGN AVAKRAHASANYAmTTHACAN+17e0.
  gDIGIT ZEROmONEmTWOnHREEmFOURnIVEmSIXnEVENmEIGHTmNINE+17f0.gSYMBOL LEK ATTAK SONxMUOYxPIIxBEIyUONx
  PRAMzAM-MUOYzAM-PIIzAM-BEIzAM-BUON+1800.aMONGOLIAN BIRGAkELLIPSISkCOMMAkFULL STOPkCOLONkFOUR DOTSk
  TODO SOFT HYPHENkSIBE SYLLABLE BOUNDARY MARKERkMANCHU COMMArFULL STOPkNIRUGUkFREE VARIATION SELECT
  OR ONEzSELECTOR TWOzSELECTOR THREEkVOWEL SEPARATORkFREE VARIATION SELECTOR FOURkDIGIT ZEROqONEqTWO
  rHREEqFOURrIVEqSIXrEVENqEIGHTqNINE+1820.kLETTER ArErIrOrUrOErUErEErNArANGrBArPArQArGArMArLArSAsHAr
  TArDArCHArJArYArRArWArFArKAsHArTSArZArHAArZRArLHArZHIrCHIrTODO LONG VOWEL SIGNwEwIwOwUwOEwUEwANGwB
  AwPAwQAwGAwMAwTAwDAwCHAwJAwTSAwYAwWAwKAwGAAwHAAwJIAwNIAwDZArSIBE EwIxYwUExwANGwKAwGAwHAwPAwSHAwTAw
  DAwJAwFAwGAAwHAAwTSAwZAwRAAwCHAwZHArMANCHU IyKAyRAyFAyZHArCHA WITH TWO DOTS+1880.rALI GALI ANUSVAR
  A ONEz VISARGA ONEz DAMARUz UBADAMAz INVERTED UBADAMAz BALUDAz THREE BALUDAz Az Iz KAz NGAz CAz TT
  Az TTHAz DDAz NNAz TAz DAz PAz PHAz SSAz ZHAz ZAz AHrTODO ALI GALI TAz GALI ZHArMANCHU ALI GALI GH
  AzLI GALI NGAzLI GALI CAzLI GALI JHAzLI GALI TTAzLI GALI DDHAzLI GALI TAzLI GALI DHAzLI GALI SSAzL
  I GALI CYAzLI GALI ZHAzLI GALI ZArALI GALI HALF Uz HALF YArMANCHU ALI GALI BHArALI GALI DAGALGArMA
  NCHU ALI GALI LHA+18b0.aCANADIAN SYLLABICS OYtAYuAYtWAYtPOYuAYuWOYtTAYtKAYuWAYtMAYtNOYuAYtLAYtSOYu
  AYuHOYvAYvWOYtYOYuAYtRAYtNWItOJIBWAY NWItNWIItOJIBWAY NWIItNWOtOJIBWAY NWOtNWOOtOJIBWAY NWOOtRWEEv
  IwIvOwOvAtOJIBWAY PzY TzY KzY CzY MzY NzY SzY SHtEASTERN WtWESTERN WtFINAL SMALL RINGzRAISED DOTtR
  -CREE RWEtWEST-CREE LOOzREE LAAtTHWEwAuTHWEwOOwAAuLHWEwOOtSAYISI SHWEz SHOOz HOOtCARRIER GWUzR DEN
  E GEEzR GAAzR GWAtSAYISI JUUtCARRIER JWAtBEAVER DENE Lz DENE RtCARRIER DENTAL S+1900.aLIMBU VOWEL-
  CARRIER LETTERgLETTER KAoHAnGAoHAnNGAnCAoHAnJAoHAnYANnTAoHAnDAoHAnNAnPAoHAnBAoHAnMAnYAnRAnLAnWAnSH
  AoSAoAnHAnGYANnTRA+1920.gVOWEL SIGN ArIrUrEErAIrOOrAUrErOgSUBJOINED LETTER YAxRAxWA+1930.hMALL LET
  TER KAtNGAtANUSVARAtTAtNAtPAtMAtRAtLAhIGN MUKPHRENGlKEMPHRENGlSA-I+1940.lLOO+1944.gEXCLAMATION MAR
  KgQUESTION MARKgDIGIT ZEROmONEmTWOnHREEmFOURnIVEmSIXnEVENmEIGHTmNINEaTAI LE LETTER KAoXAoNGAoTSAoS
  AoYAoTApHAoLAoPApHAoMAoFAoVAoHAoQAoKHAoTSHAoNAoAoIoEEpHoUoOOpoUEoEoAUEpI+1970.oTONE-2t3t4t5t6+1980
  .aNEW TAI LUE LETTER HIGH QAtLOW QAtHIGH KAyXAyNGAtLOW KAxXAxNGAtHIGH TSAySAyYAtLOW TSAxSAxYAtHIGH
   TAzHAyNAtLOW TAyHAxNAtHIGH PAzHAyMAtLOW PAyHAxMAtHIGH FAyVAyLAtLOW FAxVAxLAtHIGH HAyDAyBAtLOW HAx
  DAxBAtHIGH KVAyXVAtLOW KVAxXVAtHIGH SUAtLOW SUA+19b0.mVOWEL SIGN VOWEL SHORTENERxAAxIIxUyUxExAExOy
  AxUExAYyAYxUYxOYyAYxUEYxIYmLETTER FINAL VzNGzNzMzKzDzBmTONE MARK-1w2+19d0.mDIGIT ZEROsONEsTWOtHREE
  sFOURtIVEsSIXtEVENsEIGHTsNINEmTHAM DIGIT ONE+19de.mSIGN LAEuVaKHMER SYMBOL PATHAMASATnMUOY KOETnPI
  I KOETnBEI KOEToUON KOETnPRAM KOETr-MUOY KOETsPII KOETsBEI KOETtUON KOETnDAP KOETq-MUOY KOETrPII K
  OETrBEI KOETsUON KOETrPRAM KOETnTUTEYASATnMUOY ROCnPII ROCnBEI ROCoUON ROCnPRAM ROCr-MUOY ROCsPII 
  ROCsBEI ROCtUON ROCnDAP ROCq-MUOY ROCrPII ROCrBEI ROCsUON ROCrPRAM ROCaBUGINESE LETTER KAqGAqNGAsK
  AqPAqBAqMArPAqTAqDAqNArRAqCAqJAqNYAsCAqYAqRAqLAqVAqSAqAqHAjVOWEL SIGN IuUuEuOuAE+1a1e.jPALLAWAjEND
   OF SECTIONaTAI THAM LETTER HIGH KAwHAwXAqLOW KAvXAvHAqNGAqHIGH CAwHAqLOW CAuSAuCHAqNYAqRATAqHIGH 
  RATHAqDAqLOW RATHAqRANAqHIGH TAwHAqLOW TAvHAqNAqBAqHIGH PAwHAvFAqLOW PAuFAuPHAqMAqLOW YAqHIGH YAqR
  ArUEqLArUEqWAqHIGH SHAwSAwAvHAqLLAqAqLOW HAqIrIqUrUqEEqOOqLAEqGREAT SAjCONSONANT SIGN MEDIAL RAzED
  IAL LAyLA TANG LAIjSIGN MAI KANG LAIjCONSONANT SIGN FINAL NGAyLOW PAyHIGH RATHA OR LOW PAyMAyBAySA
  +1a60.jSIGN SAKOTjVOWEL SIGN AuMAI SATuAAuTALL AAuIvIuUEvUEvvUuOvA BELOWvYuEuAEuOOuAIuTHAM AIuOA A
  BOVEjSIGN MAI KANGoTONE-1t2oKHUEN TONE-3z4z5oRA HAAMoMAI SAMoKHUEN-LUE KARAN+1a7f.jCOMBINING CRYPT
  OGRAMMIC DOTjHORA DIGIT ZEROuONEuTWOvHREEuFOURvIVEuSIXvEVENuEIGHTuNINE+1a90.jTHAM DIGIT ZEROuONEuT
  WOvHREEuFOURvIVEuSIXvEVENuEIGHTuNINE+1aa0.jSIGN WIANGtWAAKoSAWANoKEOWoHOYoDOKMAIoREVERSED ROTATED 
  RANAoMAI YAMOKoKAANsKUUoSATKAANvKUUoHANGoCAANG+1ab0.aCOMBINING DOUBLED CIRCUMFLEX ACCENTlIAERESIS-
  RINGkINFINITYkDOWNWARDS ARROWkTRIPLE DOTkX-X BELOWkWIGGLY LINE BELOWkOPEN MARK BELOWkDOUBLE OPEN M
  ARK BELOWkLIGHT CENTRALIZATION STROKE BELOWkSTRONG CENTRALIZATION STROKE BELOWkPARENTHESES ABOVEkD
  OUBLE PARENTHESES ABOVEkPARENTHESES BELOWwOVERLAYkLATIN SMALL LETTER W BELOWzTER TURNED W BELOWlEF
  T PARENTHESIS ABOVE LEFTkRIGHT PARENTHESIS ABOVE RIGHTkLEFT PARENTHESIS BELOW LEFTkRIGHT PARENTHES
  IS BELOW RIGHTkSQUARE BRACKETS ABOVEkNUMBER SIGN ABOVEkINVERTED DOUBLE ARCH ABOVEkPLUS SIGN ABOVEk
  DOUBLE PLUS SIGN ABOVEzN BELOWkTRIPLE ACUTE ACCENTkLATIN SMALL LETTER INSULAR GzTER INSULAR RzTER 
  INSULAR T+1b00.aBALINESE SIGN ULU RICEMsCANDRAoCECEKoSURANGoBISAHjLETTER AKARAv TEDUNGqIKARAv TEDU
  NGqUKARAv TEDUNGqRA REPAx TEDUNGqLA LENGAy TEDUNGqEKARAqAIKARAqOKARAv TEDUNGqKAs MAHAPRANAqGAs GOR
  AqNGAqCAs LACAqJAs JERAqNYAqTA LATIKtMURDA MAHAPRANAqDA MURDA ALPAPRANAzMAHAPRANAqNA RAMBATqTAs TA
  WAqDAs MADUqNAqPAs KAPALqBAs KEMBANGqMAqYAqRAqLAqWAqSA SAGAvPAsqHAjSIGN REREKANjVOWEL SIGN TEDUNGu
  ULUx SARIuSUKUy ILUTuRA REPAzPA TEDUNGuLA LENGAzNGA TEDUNGuTALINGzG REPAzG TEDUNGzG REPA TEDUNGuPE
  PETz TEDUNGjADEG ADEGjLETTER KAF SASAKrHOT SASAKqTZIR SASAKqEF SASAKqVE SASAKqZAL SASAKqASYURA SAS
  AKrRCHAIC JNYA+1b50.jDIGIT ZEROpONEpTWOqHREEpFOURqIVEpSIXqEVENpEIGHTpNINEjPANTIlMADAjWINDUjCARIK P
  AMUNGKAHpSIKIpPARERENjPAMENENGjMUSICAL SYMBOL DONGzENGzUNGzANGzANG SURANGzINGzAENGzEUNGzAINGzANG G
  EDEyCOMBINING TEGEHzOMBINING ENDEPzOMBINING KEMPULzOMBINING KEMPLIzOMBINING JEGOGANzOMBINING KEMPU
  L WITH JEGOGANzOMBINING KEMPLI WITH JEGOGANzOMBINING BENDEzOMBINING GONGyRIGHT-HAND OPEN DUGzIGHT-
  HAND OPEN DAGzIGHT-HAND CLOSED TUKzIGHT-HAND CLOSED TAKyLEFT-HAND OPEN PANGzEFT-HAND OPEN PUNGzEFT
  -HAND CLOSED PLAKzEFT-HAND CLOSED PLUKzEFT-HAND OPEN PINGjPANTI LANTANGlMADA LANTANG+1b80.aSUNDANE
  SE SIGN PANYECEKsGLAYARtWISADkLETTER ArIrUrAErOrEsUrKArQArGArNGArCArJArZArNYArTArDArNArPArFArVArBA
  rMArYArRArLArWArSArXArHAkCONSONANT SIGN PAMINGKALzPANYAKRAzPANYIKUkVOWEL SIGN PANGHULUyYUKUyAELAEN
  GyOLONGxMEPETxNEULEUNGkSIGN PAMAAEHpVIRAMAkCONSONANT SIGN PASANGAN MAzPASANGAN WAkLETTER KHArSYAkD
  IGIT ZEROqONEqTWOrHREEqFOURrIVEqSIXrEVENqEIGHTqNINEkAVAGRAHAkLETTER REUrLEUrBHArFINAL KxMaBATAK LE
  TTER AnSIMALUNGUN AnHAnSIMALUNGUN HAnMANDAILING HAnBAnKARO BAnPAnSIMALUNGUN PAnNAnMANDAILING NAnWA
  nSIMALUNGUN WAnPAKPAK WAnGAnSIMALUNGUN GAnJAnDAnRAnSIMALUNGUN RAnMAnSIMALUNGUN MAoOUTHERN TAnNORTH
  ERN TAnSAoIMALUNGUN SAnMANDAILING SAnYAnSIMALUNGUN YAnNGAnLAnSIMALUNGUN LAnNYAnCAnNDAnMBAnInUgSIGN
   TOMPIgVOWEL SIGN ErPAKPAK ErEErIrKARO IrOrKARO OrUs FOR SIMALUNGUN SAgCONSONANT SIGN NGvHgPANGOLA
  TjONGONAN+1bfc.gSYMBOL BINDU NA METEKtPINARBORAStJUDULtPANGOLATaLEPCHA LETTER KApLApHAoGApLAoNGAoC
  ApHAoJAoNYAoTApHAoDAoNAoPApLApHAoFApLAoBApLAoMApLAoTSAqHAoDZAoYAoRAoLAoHApLAoVAoSApHAoWAoAhSUBJOIN
  ED LETTER YAyRAhVOWEL SIGN AAsIsOtOsUtUsEhCONSONANT SIGN KwMwLwNwPwRwTwNYIN-DOwKANGhSIGN RANmNUKTA
  +1c3b.hPUNCTUATION TA-ROLtNYET THYOOM TA-ROLtCER-WAtTSHOOK CER-WAzhDIGIT ZEROnONEnTWOoHREEnFOURoIV
  EnSIXoEVENnEIGHTnNINE+1c4d.hLETTER TTAqHAoDDAaOL CHIKI DIGIT ZEROpONEpTWOqHREEpFOURqIVEpSIXqEVENpE
  IGHTpNINEjLETTER LAqATrGrNGrLqLAAqAAKsJsMsWqLIqISrHrNYrRqLUqUCrDrNNrYqLEqEPrDDrNrRRqLOqOTTrBrVrHjM
  U TTUDDAGjGAAHLAA TTUDDAAGjMU-GAAHLAA TTUDDAAGjRELAAjPHAARKAAjAHADjPUNCTUATION MUCAADvDOUBLE MUCAA
  DaCYRILLIC SMALL LETTER ROUNDED VEwLONG-LEGGED DEwNARROW OwWIDE ESwTALL TExHREE-LEGGED TExALL HARD
   SIGNzL YATwUNBLENDED UK+1c90.aGEORGIAN MTAVRULI CAPITAL LETTER ANz LETTER BANz LETTER GANz LETTER
   DONz LETTER ENz LETTER VINz LETTER ZENz LETTER TANz LETTER INz LETTER KANz LETTER LASz LETTER MAN
  z LETTER NARz LETTER ONz LETTER PARz LETTER ZHARz LETTER RAEz LETTER SANz LETTER TARz LETTER UNz L
  ETTER PHARz LETTER KHARz LETTER GHANz LETTER QARz LETTER SHINz LETTER CHINz LETTER CANz LETTER JIL
  z LETTER CILz LETTER CHARz LETTER XANz LETTER JHANz LETTER HAEz LETTER HEz LETTER HIEz LETTER WEz 
  LETTER HARz LETTER HOEz LETTER FIz LETTER YNz LETTER ELIFIz LETTER TURNED GANz LETTER AIN+1cbd.z L
  ETTER AENz LETTER HARD SIGNz LETTER LABIAL SIGNaSUNDANESE PUNCTUATION BINDU SURYAzDU PANGLONGzDU P
  URNAMAzDU CAKRAzDU LEU SATANGAzDU KA SATANGAzDU DA SATANGAzDU BA SATANGA+1cd0.aVEDIC TONE KARSHANA
  lSHARAlPRENKHAgSIGN NIHSHVASAlYAJURVEDIC MIDLINE SVARITAgTONE YAJURVEDIC AGGRAVATED INDEPENDENT SV
  ARITAwINDEPENDENT SVARITAwKATHAKA INDEPENDENT SVARITAlCANDRA BELOWlYAJURVEDIC KATHAKA INDEPENDENT 
  SVARITA SCHROEDERlDOUBLE SVARITAlTRIPLE SVARITAlKATHAKA ANUDATTAlDOT BELOWlTWO DOTS BELOWmHREE DOT
  S BELOWlRIGVEDIC KASHMIRI INDEPENDENT SVARITAlATHARVAVEDIC INDEPENDENT SVARITAgSIGN VISARGA SVARIT
  AtUDATTAlREVERSED VISARGA UDATTAlVISARGA ANUDATTAlREVERSED VISARGA ANUDATTAlVISARGA UDATTA WITH TA
  ILtANUDATTA WITH TAILlANUSVARA ANTARGOMUKHAuBAHIRGOMUKHAuVAMAGOMUKHAzOMUKHA WITH TAILlTIRYAKlHEXIF
  ORM LONG ANUSVARAlLONG ANUSVARAlRTHANG LONG ANUSVARAlANUSVARA UBHAYATO MUKHAmRDHAVISARGAlROTATED A
  RDHAVISARGAgTONE CANDRA ABOVEgSIGN JIHVAMULIYAlUPADHMANIYAlATIKRAMAgTONE RING ABOVElDOUBLE RING AB
  OVEgSIGN DOUBLE ANUSVARA ANTARGOMUKHA+1d00.aLATIN LETTER SMALL CAPITAL AzL AEgSMALL LETTER TURNED 
  AEgLETTER SMALL CAPITAL BARRED BzL CzL DzL ETHzL EgSMALL LETTER TURNED OPEN Ez IgLETTER SMALL CAPI
  TAL JzL KzL L WITH STROKEzL MzL REVERSED NzL OzL OPEN OgSMALL LETTER SIDEWAYS OzYS OPEN OzYS O WIT
  H STROKEtTURNED OEgLETTER SMALL CAPITAL OUgSMALL LETTER TOP HALF OtBOTTOM HALF OgLETTER SMALL CAPI
  TAL PzL REVERSED RzL TURNED RzL TzL UgSMALL LETTER SIDEWAYS UzYS DIAERESIZED UzYS TURNED MgLETTER 
  SMALL CAPITAL VzL WzL ZzL EZHnVOICED LARYNGEAL SPIRANTnAINaGREEK LETTER SMALL CAPITAL GAMMAzL LAMD
  AzL PIzL RHOzL PSIaCYRILLIC LETTER SMALL CAPITAL ELaMODIFIER LETTER CAPITAL AzEyBzARRED ByDyEyREVE
  RSED EyGyHyIyJyKyLyMyNyREVERSED NyOzUyPyRyTyUyWqSMALL AwTURNED AwALPHAwTURNED AEwBwDwEwSCHWAwOPEN 
  EwTURNED OPEN EwGwTURNED IwKwMwENGwOxPEN OwTOP HALF OwBOTTOM HALF OwPwTwUwSIDEWAYS UwTURNED MwVwAI
  NwBETAwGREEK GAMMAwDELTAwGREEK PHIwCHIaLATIN SUBSCRIPT SMALL LETTER IzTER RzTER UzTER VaGREEK SUBS
  CRIPT SMALL LETTER BETAzTER GAMMAzTER RHOzTER PHIzTER CHIaLATIN SMALL LETTER UEtB WITH MIDDLE TILD
  EtD WITH MIDDLE TILDEtF WITH MIDDLE TILDEtM WITH MIDDLE TILDEtN WITH MIDDLE TILDEtP WITH MIDDLE TI
  LDEtR WITH MIDDLE TILDEz FISHHOOK AND MIDDLE TILDEtS WITH MIDDLE TILDEtT WITH MIDDLE TILDEtZ WITH 
  MIDDLE TILDEtTURNED GaMODIFIER LETTER CYRILLIC ENaLATIN SMALL LETTER INSULAR GtTH WITH STRIKETHROU
  GHmCAPITAL LETTER I WITH STROKEmLETTER IOTA WITH STROKEtP WITH STROKEmCAPITAL LETTER U WITH STROKE
  mLETTER UPSILON WITH STROKEtB WITH PALATAL HOOKtD WITH PALATAL HOOKtF WITH PALATAL HOOKtG WITH PAL
  ATAL HOOKtK WITH PALATAL HOOKtL WITH PALATAL HOOKtM WITH PALATAL HOOKtN WITH PALATAL HOOKtP WITH P
  ALATAL HOOKtR WITH PALATAL HOOKtS WITH PALATAL HOOKtESH WITH PALATAL HOOKtV WITH PALATAL HOOKtX WI
  TH PALATAL HOOKtZ WITH PALATAL HOOKtA WITH RETROFLEX HOOKuLPHA WITH RETROFLEX HOOKtD WITH HOOK AND
   TAILtE WITH RETROFLEX HOOKtOPEN E WITH RETROFLEX HOOKtREVERSED OPEN E WITH RETROFLEX HOOKtSCHWA W
  ITH RETROFLEX HOOKtI WITH RETROFLEX HOOKtOPEN O WITH RETROFLEX HOOKtESH WITH RETROFLEX HOOKtU WITH
   RETROFLEX HOOKtEZH WITH RETROFLEX HOOKaMODIFIER LETTER SMALL TURNED ALPHAwCx WITH CURLwETHwREVERS
  ED OPEN EwFwDOTLESS J WITH STROKEwSCRIPT GwTURNED HwI WITH STROKExOTAwCAPITAL IzITAL I WITH STROKE
  wJ WITH CROSSED-TAILwL WITH RETROFLEX HOOKzITH PALATAL HOOKwCAPITAL LwM WITH HOOKwTURNED M WITH LO
  NG LEGwN WITH LEFT HOOKzITH RETROFLEX HOOKwCAPITAL NwBARRED OwPHIwS WITH HOOKwESHwT WITH PALATAL H
  OOKwU BARxPSILONwCAPITAL UwV WITH HOOKwTURNED VwZx WITH RETROFLEX HOOKzITH CURLwEZHwTHETAaCOMBININ
  G DOTTED GRAVE ACCENTrACUTE ACCENTkSNAKE BELOWlUSPENSION MARKkMACRON-ACUTEkGRAVE-MACRONkMACRON-GRA
  VEkACUTE-MACRONkGRAVE-ACUTE-GRAVEkACUTE-GRAVE-ACUTEkLATIN SMALL LETTER R BELOWkBREVE-MACRONkMACRON
  -BREVEkDOUBLE CIRCUMFLEX ABOVEkOGONEK ABOVEkZIGZAG BELOWkIS BELOWkUR ABOVElS ABOVEkLATIN SMALL LET
  TER FLATTENED OPEN A ABOVEzTER AEzTER AOzTER AVzTER C CEDILLAzTER INSULAR DzTER ETHzTER GqLETTER S
  MALL CAPITAL GqSMALL LETTER KzTER LqLETTER SMALL CAPITAL LzALL CAPITAL MqSMALL LETTER NqLETTER SMA
  LL CAPITAL NzALL CAPITAL RqSMALL LETTER R ROTUNDAzTER SzTER LONG SzTER ZzTER ALPHAzTER BzTER BETAz
  TER SCHWAzTER FzTER L WITH DOUBLE MIDDLE TILDEzTER O WITH LIGHT CENTRALIZATION STROKEzTER PzTER ES
  HzTER U WITH LIGHT CENTRALIZATION STROKEzTER WzTER A WITH DIAERESISzTER O WITH DIAERESISzTER U WIT
  H DIAERESISkUP TACK ABOVEkKAVYKA ABOVE RIGHTxLEFTkDOT ABOVE LEFTkWIDE INVERTED BRIDGE BELOWkDOT BE
  LOW LEFTlELETION MARKlOUBLE INVERTED BREVE BELOWkALMOST EQUAL TO BELOWkLEFT ARROWHEAD ABOVEkRIGHT 
  ARROWHEAD AND DOWN ARROWHEAD BELOWaLATIN CAPITAL LETTER A WITH RING BELOWgSMALL LETTER A WITH RING
   BELOWgCAPITAL LETTER B WITH DOT ABOVEgSMALL LETTER B WITH DOT ABOVEgCAPITAL LETTER B WITH DOT BEL
  OWgSMALL LETTER B WITH DOT BELOWgCAPITAL LETTER B WITH LINE BELOWgSMALL LETTER B WITH LINE BELOWgC
  APITAL LETTER C WITH CEDILLA AND ACUTEgSMALL LETTER C WITH CEDILLA AND ACUTEgCAPITAL LETTER D WITH
   DOT ABOVEgSMALL LETTER D WITH DOT ABOVEgCAPITAL LETTER D WITH DOT BELOWgSMALL LETTER D WITH DOT B
  ELOWgCAPITAL LETTER D WITH LINE BELOWgSMALL LETTER D WITH LINE BELOWgCAPITAL LETTER D WITH CEDILLA
  gSMALL LETTER D WITH CEDILLAgCAPITAL LETTER D WITH CIRCUMFLEX BELOWgSMALL LETTER D WITH CIRCUMFLEX
   BELOWgCAPITAL LETTER E WITH MACRON AND GRAVEgSMALL LETTER E WITH MACRON AND GRAVEgCAPITAL LETTER 
  E WITH MACRON AND ACUTEgSMALL LETTER E WITH MACRON AND ACUTEgCAPITAL LETTER E WITH CIRCUMFLEX BELO
  WgSMALL LETTER E WITH CIRCUMFLEX BELOWgCAPITAL LETTER E WITH TILDE BELOWgSMALL LETTER E WITH TILDE
   BELOWgCAPITAL LETTER E WITH CEDILLA AND BREVEgSMALL LETTER E WITH CEDILLA AND BREVEgCAPITAL LETTE
  R F WITH DOT ABOVEgSMALL LETTER F WITH DOT ABOVEgCAPITAL LETTER G WITH MACRONgSMALL LETTER G WITH 
  MACRONgCAPITAL LETTER H WITH DOT ABOVEgSMALL LETTER H WITH DOT ABOVEgCAPITAL LETTER H WITH DOT BEL
  OWgSMALL LETTER H WITH DOT BELOWgCAPITAL LETTER H WITH DIAERESISgSMALL LETTER H WITH DIAERESISgCAP
  ITAL LETTER H WITH CEDILLAgSMALL LETTER H WITH CEDILLAgCAPITAL LETTER H WITH BREVE BELOWgSMALL LET
  TER H WITH BREVE BELOWgCAPITAL LETTER I WITH TILDE BELOWgSMALL LETTER I WITH TILDE BELOWgCAPITAL L
  ETTER I WITH DIAERESIS AND ACUTEgSMALL LETTER I WITH DIAERESIS AND ACUTEgCAPITAL LETTER K WITH ACU
  TEgSMALL LETTER K WITH ACUTEgCAPITAL LETTER K WITH DOT BELOWgSMALL LETTER K WITH DOT BELOWgCAPITAL
   LETTER K WITH LINE BELOWgSMALL LETTER K WITH LINE BELOWgCAPITAL LETTER L WITH DOT BELOWgSMALL LET
  TER L WITH DOT BELOWgCAPITAL LETTER L WITH DOT BELOW AND MACRONgSMALL LETTER L WITH DOT BELOW AND 
  MACRONgCAPITAL LETTER L WITH LINE BELOWgSMALL LETTER L WITH LINE BELOWgCAPITAL LETTER L WITH CIRCU
  MFLEX BELOWgSMALL LETTER L WITH CIRCUMFLEX BELOWgCAPITAL LETTER M WITH ACUTEgSMALL LETTER M WITH A
  CUTEgCAPITAL LETTER M WITH DOT ABOVEgSMALL LETTER M WITH DOT ABOVEgCAPITAL LETTER M WITH DOT BELOW
  gSMALL LETTER M WITH DOT BELOWgCAPITAL LETTER N WITH DOT ABOVEgSMALL LETTER N WITH DOT ABOVEgCAPIT
  AL LETTER N WITH DOT BELOWgSMALL LETTER N WITH DOT BELOWgCAPITAL LETTER N WITH LINE BELOWgSMALL LE
  TTER N WITH LINE BELOWgCAPITAL LETTER N WITH CIRCUMFLEX BELOWgSMALL LETTER N WITH CIRCUMFLEX BELOW
  gCAPITAL LETTER O WITH TILDE AND ACUTEgSMALL LETTER O WITH TILDE AND ACUTEgCAPITAL LETTER O WITH T
  ILDE AND DIAERESISgSMALL LETTER O WITH TILDE AND DIAERESISgCAPITAL LETTER O WITH MACRON AND GRAVEg
  SMALL LETTER O WITH MACRON AND GRAVEgCAPITAL LETTER O WITH MACRON AND ACUTEgSMALL LETTER O WITH MA
  CRON AND ACUTEgCAPITAL LETTER P WITH ACUTEgSMALL LETTER P WITH ACUTEgCAPITAL LETTER P WITH DOT ABO
  VEgSMALL LETTER P WITH DOT ABOVEgCAPITAL LETTER R WITH DOT ABOVEgSMALL LETTER R WITH DOT ABOVEgCAP
  ITAL LETTER R WITH DOT BELOWgSMALL LETTER R WITH DOT BELOWgCAPITAL LETTER R WITH DOT BELOW AND MAC
  RONgSMALL LETTER R WITH DOT BELOW AND MACRONgCAPITAL LETTER R WITH LINE BELOWgSMALL LETTER R WITH 
  LINE BELOWgCAPITAL LETTER S WITH DOT ABOVEgSMALL LETTER S WITH DOT ABOVEgCAPITAL LETTER S WITH DOT
   BELOWgSMALL LETTER S WITH DOT BELOWgCAPITAL LETTER S WITH ACUTE AND DOT ABOVEgSMALL LETTER S WITH
   ACUTE AND DOT ABOVEgCAPITAL LETTER S WITH CARON AND DOT ABOVEgSMALL LETTER S WITH CARON AND DOT A
  BOVEgCAPITAL LETTER S WITH DOT BELOW AND DOT ABOVEgSMALL LETTER S WITH DOT BELOW AND DOT ABOVEgCAP
  ITAL LETTER T WITH DOT ABOVEgSMALL LETTER T WITH DOT ABOVEgCAPITAL LETTER T WITH DOT BELOWgSMALL L
  ETTER T WITH DOT BELOWgCAPITAL LETTER T WITH LINE BELOWgSMALL LETTER T WITH LINE BELOWgCAPITAL LET
  TER T WITH CIRCUMFLEX BELOWgSMALL LETTER T WITH CIRCUMFLEX BELOWgCAPITAL LETTER U WITH DIAERESIS B
  ELOWgSMALL LETTER U WITH DIAERESIS BELOWgCAPITAL LETTER U WITH TILDE BELOWgSMALL LETTER U WITH TIL
  DE BELOWgCAPITAL LETTER U WITH CIRCUMFLEX BELOWgSMALL LETTER U WITH CIRCUMFLEX BELOWgCAPITAL LETTE
  R U WITH TILDE AND ACUTEgSMALL LETTER U WITH TILDE AND ACUTEgCAPITAL LETTER U WITH MACRON AND DIAE
  RESISgSMALL LETTER U WITH MACRON AND DIAERESISgCAPITAL LETTER V WITH TILDEgSMALL LETTER V WITH TIL
  DEgCAPITAL LETTER V WITH DOT BELOWgSMALL LETTER V WITH DOT BELOWgCAPITAL LETTER W WITH GRAVEgSMALL
   LETTER W WITH GRAVEgCAPITAL LETTER W WITH ACUTEgSMALL LETTER W WITH ACUTEgCAPITAL LETTER W WITH D
  IAERESISgSMALL LETTER W WITH DIAERESISgCAPITAL LETTER W WITH DOT ABOVEgSMALL LETTER W WITH DOT ABO
  VEgCAPITAL LETTER W WITH DOT BELOWgSMALL LETTER W WITH DOT BELOWgCAPITAL LETTER X WITH DOT ABOVEgS
  MALL LETTER X WITH DOT ABOVEgCAPITAL LETTER X WITH DIAERESISgSMALL LETTER X WITH DIAERESISgCAPITAL
   LETTER Y WITH DOT ABOVEgSMALL LETTER Y WITH DOT ABOVEgCAPITAL LETTER Z WITH CIRCUMFLEXgSMALL LETT
  ER Z WITH CIRCUMFLEXgCAPITAL LETTER Z WITH DOT BELOWgSMALL LETTER Z WITH DOT BELOWgCAPITAL LETTER 
  Z WITH LINE BELOWgSMALL LETTER Z WITH LINE BELOWtH WITH LINE BELOWtT WITH DIAERESIStW WITH RING AB
  OVEtY WITH RING ABOVEtA WITH RIGHT HALF RINGtLONG S WITH DOT ABOVEz WITH DIAGONAL STROKEz WITH HIG
  H STROKEgCAPITAL LETTER SHARP SgSMALL LETTER DELTAgCAPITAL LETTER A WITH DOT BELOWgSMALL LETTER A 
  WITH DOT BELOWgCAPITAL LETTER A WITH HOOK ABOVEgSMALL LETTER A WITH HOOK ABOVEgCAPITAL LETTER A WI
  TH CIRCUMFLEX AND ACUTEgSMALL LETTER A WITH CIRCUMFLEX AND ACUTEgCAPITAL LETTER A WITH CIRCUMFLEX 
  AND GRAVEgSMALL LETTER A WITH CIRCUMFLEX AND GRAVEgCAPITAL LETTER A WITH CIRCUMFLEX AND HOOK ABOVE
  gSMALL LETTER A WITH CIRCUMFLEX AND HOOK ABOVEgCAPITAL LETTER A WITH CIRCUMFLEX AND TILDEgSMALL LE
  TTER A WITH CIRCUMFLEX AND TILDEgCAPITAL LETTER A WITH CIRCUMFLEX AND DOT BELOWgSMALL LETTER A WIT
  H CIRCUMFLEX AND DOT BELOWgCAPITAL LETTER A WITH BREVE AND ACUTEgSMALL LETTER A WITH BREVE AND ACU
  TEgCAPITAL LETTER A WITH BREVE AND GRAVEgSMALL LETTER A WITH BREVE AND GRAVEgCAPITAL LETTER A WITH
   BREVE AND HOOK ABOVEgSMALL LETTER A WITH BREVE AND HOOK ABOVEgCAPITAL LETTER A WITH BREVE AND TIL
  DEgSMALL LETTER A WITH BREVE AND TILDEgCAPITAL LETTER A WITH BREVE AND DOT BELOWgSMALL LETTER A WI
  TH BREVE AND DOT BELOWgCAPITAL LETTER E WITH DOT BELOWgSMALL LETTER E WITH DOT BELOWgCAPITAL LETTE
  R E WITH HOOK ABOVEgSMALL LETTER E WITH HOOK ABOVEgCAPITAL LETTER E WITH TILDEgSMALL LETTER E WITH
   TILDEgCAPITAL LETTER E WITH CIRCUMFLEX AND ACUTEgSMALL LETTER E WITH CIRCUMFLEX AND ACUTEgCAPITAL
   LETTER E WITH CIRCUMFLEX AND GRAVEgSMALL LETTER E WITH CIRCUMFLEX AND GRAVEgCAPITAL LETTER E WITH
   CIRCUMFLEX AND HOOK ABOVEgSMALL LETTER E WITH CIRCUMFLEX AND HOOK ABOVEgCAPITAL LETTER E WITH CIR
  CUMFLEX AND TILDEgSMALL LETTER E WITH CIRCUMFLEX AND TILDEgCAPITAL LETTER E WITH CIRCUMFLEX AND DO
  T BELOWgSMALL LETTER E WITH CIRCUMFLEX AND DOT BELOWgCAPITAL LETTER I WITH HOOK ABOVEgSMALL LETTER
   I WITH HOOK ABOVEgCAPITAL LETTER I WITH DOT BELOWgSMALL LETTER I WITH DOT BELOWgCAPITAL LETTER O 
  WITH DOT BELOWgSMALL LETTER O WITH DOT BELOWgCAPITAL LETTER O WITH HOOK ABOVEgSMALL LETTER O WITH 
  HOOK ABOVEgCAPITAL LETTER O WITH CIRCUMFLEX AND ACUTEgSMALL LETTER O WITH CIRCUMFLEX AND ACUTEgCAP
  ITAL LETTER O WITH CIRCUMFLEX AND GRAVEgSMALL LETTER O WITH CIRCUMFLEX AND GRAVEgCAPITAL LETTER O 
  WITH CIRCUMFLEX AND HOOK ABOVEgSMALL LETTER O WITH CIRCUMFLEX AND HOOK ABOVEgCAPITAL LETTER O WITH
   CIRCUMFLEX AND TILDEgSMALL LETTER O WITH CIRCUMFLEX AND TILDEgCAPITAL LETTER O WITH CIRCUMFLEX AN
  D DOT BELOWgSMALL LETTER O WITH CIRCUMFLEX AND DOT BELOWgCAPITAL LETTER O WITH HORN AND ACUTEgSMAL
  L LETTER O WITH HORN AND ACUTEgCAPITAL LETTER O WITH HORN AND GRAVEgSMALL LETTER O WITH HORN AND G
  RAVEgCAPITAL LETTER O WITH HORN AND HOOK ABOVEgSMALL LETTER O WITH HORN AND HOOK ABOVEgCAPITAL LET
  TER O WITH HORN AND TILDEgSMALL LETTER O WITH HORN AND TILDEgCAPITAL LETTER O WITH HORN AND DOT BE
  LOWgSMALL LETTER O WITH HORN AND DOT BELOWgCAPITAL LETTER U WITH DOT BELOWgSMALL LETTER U WITH DOT
   BELOWgCAPITAL LETTER U WITH HOOK ABOVEgSMALL LETTER U WITH HOOK ABOVEgCAPITAL LETTER U WITH HORN 
  AND ACUTEgSMALL LETTER U WITH HORN AND ACUTEgCAPITAL LETTER U WITH HORN AND GRAVEgSMALL LETTER U W
  ITH HORN AND GRAVEgCAPITAL LETTER U WITH HORN AND HOOK ABOVEgSMALL LETTER U WITH HORN AND HOOK ABO
  VEgCAPITAL LETTER U WITH HORN AND TILDEgSMALL LETTER U WITH HORN AND TILDEgCAPITAL LETTER U WITH H
  ORN AND DOT BELOWgSMALL LETTER U WITH HORN AND DOT BELOWgCAPITAL LETTER Y WITH GRAVEgSMALL LETTER 
  Y WITH GRAVEgCAPITAL LETTER Y WITH DOT BELOWgSMALL LETTER Y WITH DOT BELOWgCAPITAL LETTER Y WITH H
  OOK ABOVEgSMALL LETTER Y WITH HOOK ABOVEgCAPITAL LETTER Y WITH TILDEgSMALL LETTER Y WITH TILDEgCAP
  ITAL LETTER MIDDLE-WELSH LLgSMALL LETTER MIDDLE-WELSH LLgCAPITAL LETTER MIDDLE-WELSH VgSMALL LETTE
  R MIDDLE-WELSH VgCAPITAL LETTER Y WITH LOOPgSMALL LETTER Y WITH LOOPaGREEK SMALL LETTER ALPHA WITH
   PSILIzWITH DASIAzWITH PSILI AND VARIAzWITH DASIA AND VARIAzWITH PSILI AND OXIAzWITH DASIA AND OXI
  AzWITH PSILI AND PERISPOMENIzWITH DASIA AND PERISPOMENIgCAPITAL LETTER ALPHA WITH PSILIzA WITH DAS
  IAzA WITH PSILI AND VARIAzA WITH DASIA AND VARIAzA WITH PSILI AND OXIAzA WITH DASIA AND OXIAzA WIT
  H PSILI AND PERISPOMENIzA WITH DASIA AND PERISPOMENIgSMALL LETTER EPSILON WITH PSILIzN WITH DASIAz
  N WITH PSILI AND VARIAzN WITH DASIA AND VARIAzN WITH PSILI AND OXIAzN WITH DASIA AND OXIA+1f18.gCA
  PITAL LETTER EPSILON WITH PSILIzLON WITH DASIAzLON WITH PSILI AND VARIAzLON WITH DASIA AND VARIAzL
  ON WITH PSILI AND OXIAzLON WITH DASIA AND OXIA+1f20.gSMALL LETTER ETA WITH PSILIzTH DASIAzTH PSILI
   AND VARIAzTH DASIA AND VARIAzTH PSILI AND OXIAzTH DASIA AND OXIAzTH PSILI AND PERISPOMENIzTH DASI
  A AND PERISPOMENIgCAPITAL LETTER ETA WITH PSILIzWITH DASIAzWITH PSILI AND VARIAzWITH DASIA AND VAR
  IAzWITH PSILI AND OXIAzWITH DASIA AND OXIAzWITH PSILI AND PERISPOMENIzWITH DASIA AND PERISPOMENIgS
  MALL LETTER IOTA WITH PSILIzITH DASIAzITH PSILI AND VARIAzITH DASIA AND VARIAzITH PSILI AND OXIAzI
  TH DASIA AND OXIAzITH PSILI AND PERISPOMENIzITH DASIA AND PERISPOMENIgCAPITAL LETTER IOTA WITH PSI
  LIz WITH DASIAz WITH PSILI AND VARIAz WITH DASIA AND VARIAz WITH PSILI AND OXIAz WITH DASIA AND OX
  IAz WITH PSILI AND PERISPOMENIz WITH DASIA AND PERISPOMENIgSMALL LETTER OMICRON WITH PSILIzN WITH 
  DASIAzN WITH PSILI AND VARIAzN WITH DASIA AND VARIAzN WITH PSILI AND OXIAzN WITH DASIA AND OXIA+1f
  48.gCAPITAL LETTER OMICRON WITH PSILIzRON WITH DASIAzRON WITH PSILI AND VARIAzRON WITH DASIA AND V
  ARIAzRON WITH PSILI AND OXIAzRON WITH DASIA AND OXIA+1f50.gSMALL LETTER UPSILON WITH PSILIzN WITH 
  DASIAzN WITH PSILI AND VARIAzN WITH DASIA AND VARIAzN WITH PSILI AND OXIAzN WITH DASIA AND OXIAzN 
  WITH PSILI AND PERISPOMENIzN WITH DASIA AND PERISPOMENI+1f59.gCAPITAL LETTER UPSILON WITH DASIA+1f
  5b.zLON WITH DASIA AND VARIA+1f5d.zLON WITH DASIA AND OXIA+1f5f.zLON WITH DASIA AND PERISPOMENIgSM
  ALL LETTER OMEGA WITH PSILIzWITH DASIAzWITH PSILI AND VARIAzWITH DASIA AND VARIAzWITH PSILI AND OX
  IAzWITH DASIA AND OXIAzWITH PSILI AND PERISPOMENIzWITH DASIA AND PERISPOMENIgCAPITAL LETTER OMEGA 
  WITH PSILIzA WITH DASIAzA WITH PSILI AND VARIAzA WITH DASIA AND VARIAzA WITH PSILI AND OXIAzA WITH
   DASIA AND OXIAzA WITH PSILI AND PERISPOMENIzA WITH DASIA AND PERISPOMENIgSMALL LETTER ALPHA WITH 
  VARIAzWITH OXIAtEPSILON WITH VARIAzN WITH OXIAuTA WITH VARIAzTH OXIAtIOTA WITH VARIAzITH OXIAtOMIC
  RON WITH VARIAzN WITH OXIAtUPSILON WITH VARIAzN WITH OXIAtOMEGA WITH VARIAzWITH OXIA+1f80.tALPHA W
  ITH PSILI AND YPOGEGRAMMENIzWITH DASIA AND YPOGEGRAMMENIzWITH PSILI AND VARIA AND YPOGEGRAMMENIzWI
  TH DASIA AND VARIA AND YPOGEGRAMMENIzWITH PSILI AND OXIA AND YPOGEGRAMMENIzWITH DASIA AND OXIA AND
   YPOGEGRAMMENIzWITH PSILI AND PERISPOMENI AND YPOGEGRAMMENIzWITH DASIA AND PERISPOMENI AND YPOGEGR
  AMMENIgCAPITAL LETTER ALPHA WITH PSILI AND PROSGEGRAMMENIzA WITH DASIA AND PROSGEGRAMMENIzA WITH P
  SILI AND VARIA AND PROSGEGRAMMENIzA WITH DASIA AND VARIA AND PROSGEGRAMMENIzA WITH PSILI AND OXIA 
  AND PROSGEGRAMMENIzA WITH DASIA AND OXIA AND PROSGEGRAMMENIzA WITH PSILI AND PERISPOMENI AND PROSG
  EGRAMMENIzA WITH DASIA AND PERISPOMENI AND PROSGEGRAMMENIgSMALL LETTER ETA WITH PSILI AND YPOGEGRA
  MMENIzTH DASIA AND YPOGEGRAMMENIzTH PSILI AND VARIA AND YPOGEGRAMMENIzTH DASIA AND VARIA AND YPOGE
  GRAMMENIzTH PSILI AND OXIA AND YPOGEGRAMMENIzTH DASIA AND OXIA AND YPOGEGRAMMENIzTH PSILI AND PERI
  SPOMENI AND YPOGEGRAMMENIzTH DASIA AND PERISPOMENI AND YPOGEGRAMMENIgCAPITAL LETTER ETA WITH PSILI
   AND PROSGEGRAMMENIzWITH DASIA AND PROSGEGRAMMENIzWITH PSILI AND VARIA AND PROSGEGRAMMENIzWITH DAS
  IA AND VARIA AND PROSGEGRAMMENIzWITH PSILI AND OXIA AND PROSGEGRAMMENIzWITH DASIA AND OXIA AND PRO
  SGEGRAMMENIzWITH PSILI AND PERISPOMENI AND PROSGEGRAMMENIzWITH DASIA AND PERISPOMENI AND PROSGEGRA
  MMENIgSMALL LETTER OMEGA WITH PSILI AND YPOGEGRAMMENIzWITH DASIA AND YPOGEGRAMMENIzWITH PSILI AND 
  VARIA AND YPOGEGRAMMENIzWITH DASIA AND VARIA AND YPOGEGRAMMENIzWITH PSILI AND OXIA AND YPOGEGRAMME
  NIzWITH DASIA AND OXIA AND YPOGEGRAMMENIzWITH PSILI AND PERISPOMENI AND YPOGEGRAMMENIzWITH DASIA A
  ND PERISPOMENI AND YPOGEGRAMMENIgCAPITAL LETTER OMEGA WITH PSILI AND PROSGEGRAMMENIzA WITH DASIA A
  ND PROSGEGRAMMENIzA WITH PSILI AND VARIA AND PROSGEGRAMMENIzA WITH DASIA AND VARIA AND PROSGEGRAMM
  ENIzA WITH PSILI AND OXIA AND PROSGEGRAMMENIzA WITH DASIA AND OXIA AND PROSGEGRAMMENIzA WITH PSILI
   AND PERISPOMENI AND PROSGEGRAMMENIzA WITH DASIA AND PERISPOMENI AND PROSGEGRAMMENIgSMALL LETTER A
  LPHA WITH VRACHYzWITH MACRONzWITH VARIA AND YPOGEGRAMMENIzWITH YPOGEGRAMMENIzWITH OXIA AND YPOGEGR
  AMMENI+1fb6.zWITH PERISPOMENIzWITH PERISPOMENI AND YPOGEGRAMMENIgCAPITAL LETTER ALPHA WITH VRACHYz
  A WITH MACRONzA WITH VARIAzA WITH OXIAzA WITH PROSGEGRAMMENIgKORONISgPROSGEGRAMMENIhSILIhERISPOMEN
  IgDIALYTIKA AND PERISPOMENIgSMALL LETTER ETA WITH VARIA AND YPOGEGRAMMENIzTH YPOGEGRAMMENIzTH OXIA
   AND YPOGEGRAMMENI+1fc6.zTH PERISPOMENIzTH PERISPOMENI AND YPOGEGRAMMENIgCAPITAL LETTER EPSILON WI
  TH VARIAzLON WITH OXIAwTA WITH VARIAzWITH OXIAzWITH PROSGEGRAMMENIgPSILI AND VARIAqOXIAqPERISPOMEN
  IgSMALL LETTER IOTA WITH VRACHYzITH MACRONzITH DIALYTIKA AND VARIAzITH DIALYTIKA AND OXIA+1fd6.zIT
  H PERISPOMENIzITH DIALYTIKA AND PERISPOMENIgCAPITAL LETTER IOTA WITH VRACHYz WITH MACRONz WITH VAR
  IAz WITH OXIA+1fdd.gDASIA AND VARIAqOXIAqPERISPOMENIgSMALL LETTER UPSILON WITH VRACHYzN WITH MACRO
  NzN WITH DIALYTIKA AND VARIAzN WITH DIALYTIKA AND OXIAtRHO WITH PSILIzTH DASIAtUPSILON WITH PERISP
  OMENIzN WITH DIALYTIKA AND PERISPOMENIgCAPITAL LETTER UPSILON WITH VRACHYzLON WITH MACRONzLON WITH
   VARIAzLON WITH OXIAvRHO WITH DASIAgDIALYTIKA AND VARIAuOXIAgVARIA+1ff2.gSMALL LETTER OMEGA WITH V
  ARIA AND YPOGEGRAMMENIzWITH YPOGEGRAMMENIzWITH OXIA AND YPOGEGRAMMENI+1ff6.zWITH PERISPOMENIzWITH 
  PERISPOMENI AND YPOGEGRAMMENIgCAPITAL LETTER OMICRON WITH VARIAzRON WITH OXIAxEGA WITH VARIAzA WIT
  H OXIAzA WITH PROSGEGRAMMENIgOXIAgDASIA+2000.aEN QUADbM QUADbN SPACEbM SPACEaTHREE-PER-EM SPACEaFO
  UR-PER-EM SPACEaSIX-PER-EM SPACEaFIGURE SPACEaPUNCTUATION SPACEaTHIN SPACEaHAIR SPACEaZERO WIDTH S
  PACElNON-JOINERlJOINERaLEFT-TO-RIGHT MARKaRIGHT-TO-LEFT MARKaHYPHENaNON-BREAKING HYPHENaFIGURE DAS
  HaEN DASHbM DASHaHORIZONTAL BARaDOUBLE VERTICAL LINEhLOW LINEaLEFT SINGLE QUOTATION MARKaRIGHT SIN
  GLE QUOTATION MARKaSINGLE LOW-9 QUOTATION MARKhHIGH-REVERSED-9 QUOTATION MARKaLEFT DOUBLE QUOTATIO
  N MARKaRIGHT DOUBLE QUOTATION MARKaDOUBLE LOW-9 QUOTATION MARKhHIGH-REVERSED-9 QUOTATION MARKbAGGE
  RbOUBLE DAGGERaBULLETaTRIANGULAR BULLETaONE DOT LEADERaTWO DOT LEADERaHORIZONTAL ELLIPSISbYPHENATI
  ON POINTaLINE SEPARATORaPARAGRAPH SEPARATORaLEFT-TO-RIGHT EMBEDDINGaRIGHT-TO-LEFT EMBEDDINGaPOP DI
  RECTIONAL FORMATTINGaLEFT-TO-RIGHT OVERRIDEaRIGHT-TO-LEFT OVERRIDEaNARROW NO-BREAK SPACEaPER MILLE
   SIGNeTEN THOUSAND SIGNbRIMEaDOUBLE PRIMEaTRIPLE PRIMEaREVERSED PRIMEjDOUBLE PRIMEjTRIPLE PRIMEaCA
  RETaSINGLE LEFT-POINTING ANGLE QUOTATION MARKhRIGHT-POINTING ANGLE QUOTATION MARKaREFERENCE MARKaD
  OUBLE EXCLAMATION MARKaINTERROBANGaOVERLINEaUNDERTIEaCHARACTER TIEbARET INSERTION POINTaASTERISMaH
  YPHEN BULLETaFRACTION SLASHaLEFT SQUARE BRACKET WITH QUILLaRIGHT SQUARE BRACKET WITH QUILLaDOUBLE 
  QUESTION MARKaQUESTION EXCLAMATION MARKaEXCLAMATION QUESTION MARKaTIRONIAN SIGN ETaREVERSED PILCRO
  W SIGNaBLACK LEFTWARDS BULLETgRIGHTWARDS BULLETaLOW ASTERISKaREVERSED SEMICOLONaCLOSE UPaTWO ASTER
  ISKS ALIGNED VERTICALLYaCOMMERCIAL MINUS SIGNaSWUNG DASHaINVERTED UNDERTIEaFLOWER PUNCTUATION MARK
  aTHREE DOT PUNCTUATIONaQUADRUPLE PRIMEaFOUR DOT PUNCTUATIONbIVE DOT PUNCTUATIONaTWO DOT PUNCTUATIO
  NaFOUR DOT MARKaDOTTED CROSSaTRICOLONaVERTICAL FOUR DOTSaMEDIUM MATHEMATICAL SPACEaWORD JOINERaFUN
  CTION APPLICATIONaINVISIBLE TIMESkSEPARATORkPLUS+2066.aLEFT-TO-RIGHT ISOLATEaRIGHT-TO-LEFT ISOLATE
  aFIRST STRONG ISOLATEaPOP DIRECTIONAL ISOLATEaINHIBIT SYMMETRIC SWAPPINGaACTIVATE SYMMETRIC SWAPPI
  NGaINHIBIT ARABIC FORM SHAPINGaACTIVATE ARABIC FORM SHAPINGaNATIONAL DIGIT SHAPESbOMINAL DIGIT SHA
  PESaSUPERSCRIPT ZEROmLATIN SMALL LETTER I+2074.mFOURnIVEmSIXnEVENmEIGHTmNINEmPLUS SIGNmMINUSmEQUAL
  S SIGNmLEFT PARENTHESISmRIGHT PARENTHESISmLATIN SMALL LETTER NcBSCRIPT ZEROkONEkTWOlHREEkFOURlIVEk
  SIXlEVENkEIGHTkNINEkPLUS SIGNkMINUSkEQUALS SIGNkLEFT PARENTHESISkRIGHT PARENTHESIS+2090.aLATIN SUB
  SCRIPT SMALL LETTER AzTER EzTER OzTER XzTER SCHWAzTER HzTER KzTER LzTER MzTER NzTER PzTER SzTER T+
  20a0.aEURO-CURRENCY SIGNaCOLON SIGNbRUZEIRO SIGNaFRENCH FRANC SIGNaLIRA SIGNaMILL SIGNaNAIRA SIGNa
  PESETA SIGNaRUPEE SIGNaWON SIGNaNEW SHEQEL SIGNaDONG SIGNaEURO SIGNaKIP SIGNaTUGRIK SIGNaDRACHMA S
  IGNaGERMAN PENNY SIGNaPESO SIGNaGUARANI SIGNaAUSTRAL SIGNaHRYVNIA SIGNaCEDI SIGNaLIVRE TOURNOIS SI
  GNaSPESMILO SIGNaTENGE SIGNaINDIAN RUPEE SIGNaTURKISH LIRA SIGNaNORDIC MARK SIGNaMANAT SIGNaRUBLE 
  SIGNaLARI SIGNaBITCOIN SIGNaSOM SIGN+20d0.aCOMBINING LEFT HARPOON ABOVEkRIGHT HARPOON ABOVEkLONG V
  ERTICAL LINE OVERLAYkSHORT VERTICAL LINE OVERLAYkANTICLOCKWISE ARROW ABOVEkCLOCKWISE ARROW ABOVEkL
  EFT ARROW ABOVEkRIGHT ARROW ABOVEmNG OVERLAYkCLOCKWISE RING OVERLAYkANTICLOCKWISE RING OVERLAYkTHR
  EE DOTS ABOVEkFOUR DOTS ABOVEkENCLOSING CIRCLEuSQUAREuDIAMONDuCIRCLE BACKSLASHkLEFT RIGHT ARROW AB
  OVEkENCLOSING SCREENuKEYCAPuUPWARD POINTING TRIANGLEkREVERSE SOLIDUS OVERLAYkDOUBLE VERTICAL STROK
  E OVERLAYkANNUITY SYMBOLkTRIPLE UNDERDOTkWIDE BRIDGE ABOVEkLEFTWARDS ARROW OVERLAYlONG DOUBLE SOLI
  DUS OVERLAYkRIGHTWARDS HARPOON WITH BARB DOWNWARDSkLEFTWARDS HARPOON WITH BARB DOWNWARDSo ARROW BE
  LOWkRIGHT ARROW BELOWkASTERISK ABOVE+2100.aACCOUNT OFbDDRESSED TO THE SUBJECTaDOUBLE-STRUCK CAPITA
  L CbEGREE CELSIUSaCENTRE LINE SYMBOLbARE OFcDA UNAaEULER CONSTANTaSCRUPLEaDEGREE FAHRENHEITaSCRIPT
   SMALL GhCAPITAL HaBLACK-LETTER CAPITAL HaDOUBLE-STRUCK CAPITAL HaPLANCK CONSTANTp OVER TWO PIaSCR
  IPT CAPITAL IaBLACK-LETTER CAPITAL IaSCRIPT CAPITAL LhSMALL LaL B BAR SYMBOLaDOUBLE-STRUCK CAPITAL
   NaNUMERO SIGNaSOUND RECORDING COPYRIGHTbCRIPT CAPITAL PaDOUBLE-STRUCK CAPITAL PwQaSCRIPT CAPITAL 
  RaBLACK-LETTER CAPITAL RaDOUBLE-STRUCK CAPITAL RaPRESCRIPTION TAKEaRESPONSEaSERVICE MARKaTELEPHONE
   SIGNbRADE MARK SIGNaVERSICLEaDOUBLE-STRUCK CAPITAL ZaOUNCE SIGNbHM SIGNaINVERTED OHM SIGNaBLACK-L
  ETTER CAPITAL ZaTURNED GREEK SMALL LETTER IOTAaKELVIN SIGNaANGSTROM SIGNaSCRIPT CAPITAL BaBLACK-LE
  TTER CAPITAL CaESTIMATED SYMBOLaSCRIPT SMALL EhCAPITAL EpFaTURNED CAPITAL FaSCRIPT CAPITAL MhSMALL
   OaALEF SYMBOLaBET SYMBOLaGIMEL SYMBOLaDALET SYMBOLaINFORMATION SOURCEaROTATED CAPITAL QaFACSIMILE
   SIGNaDOUBLE-STRUCK SMALL PIuGAMMAoCAPITAL GAMMAwPIoN-ARY SUMMATIONaTURNED SANS-SERIF CAPITAL Gz L
  aREVERSED SANS-SERIF CAPITAL LaTURNED SANS-SERIF CAPITAL YaDOUBLE-STRUCK ITALIC CAPITAL DvSMALL Dz
  L EzL IzL JaPROPERTY LINEaTURNED AMPERSANDaPER SIGNaAKTIESELSKABaTURNED SMALL FaSYMBOL FOR SAMARIT
  AN SOURCEaVULGAR FRACTION ONE SEVENTHuNINTHuTENTHvHIRDqTWO THIRDSqONE FIFTHqTWO FIFTHSrHREE FIFTHS
  qFOUR FIFTHSqONE SIXTHqFIVE SIXTHSqONE EIGHTHqTHREE EIGHTHSqFIVE EIGHTHSqSEVEN EIGHTHSaFRACTION NU
  MERATOR ONEaROMAN NUMERAL ONEoTWOpHREEoFOURpIVEoSIXpEVENoEIGHToNINEoTENoELEVENoTWELVEoFIFTYoONE HU
  NDREDoFIVE HUNDREDoONE THOUSANDaSMALL ROMAN NUMERAL ONEuTWOvHREEuFOURvIVEuSIXvEVENuEIGHTuNINEuTENu
  ELEVENuTWELVEuFIFTYuONE HUNDREDuFIVE HUNDREDuONE THOUSANDaROMAN NUMERAL ONE THOUSAND C DoFIVE THOU
  SANDoTEN THOUSANDoREVERSED ONE HUNDREDaLATIN SMALL LETTER REVERSED CaROMAN NUMERAL SIX LATE FORMoF
  IFTY EARLY FORMuTHOUSANDoONE HUNDRED THOUSANDaVULGAR FRACTION ZERO THIRDSaTURNED DIGIT TWOoHREE+21
  90.aLEFTWARDS ARROWaUPWARDS ARROWaRIGHTWARDS ARROWaDOWNWARDS ARROWaLEFT RIGHT ARROWaUP DOWN ARROWa
  NORTH WEST ARROWgEAST ARROWaSOUTH EAST ARROWgWEST ARROWaLEFTWARDS ARROW WITH STROKEaRIGHTWARDS ARR
  OW WITH STROKEaLEFTWARDS WAVE ARROWaRIGHTWARDS WAVE ARROWaLEFTWARDS TWO HEADED ARROWaUPWARDS TWO H
  EADED ARROWaRIGHTWARDS TWO HEADED ARROWaDOWNWARDS TWO HEADED ARROWaLEFTWARDS ARROW WITH TAILaRIGHT
  WARDS ARROW WITH TAILaLEFTWARDS ARROW FROM BARaUPWARDS ARROW FROM BARaRIGHTWARDS ARROW FROM BARaDO
  WNWARDS ARROW FROM BARaUP DOWN ARROW WITH BASEaLEFTWARDS ARROW WITH HOOKaRIGHTWARDS ARROW WITH HOO
  KaLEFTWARDS ARROW WITH LOOPaRIGHTWARDS ARROW WITH LOOPaLEFT RIGHT WAVE ARROWlARROW WITH STROKEaDOW
  NWARDS ZIGZAG ARROWaUPWARDS ARROW WITH TIP LEFTWARDSxRIGHTWARDSaDOWNWARDS ARROW WITH TIP LEFTWARDS
  zRIGHTWARDSaRIGHTWARDS ARROW WITH CORNER DOWNWARDSaDOWNWARDS ARROW WITH CORNER LEFTWARDSaANTICLOCK
  WISE TOP SEMICIRCLE ARROWaCLOCKWISE TOP SEMICIRCLE ARROWaNORTH WEST ARROW TO LONG BARaLEFTWARDS AR
  ROW TO BAR OVER RIGHTWARDS ARROW TO BARaANTICLOCKWISE OPEN CIRCLE ARROWaCLOCKWISE OPEN CIRCLE ARRO
  WaLEFTWARDS HARPOON WITH BARB UPWARDSzRB DOWNWARDSaUPWARDS HARPOON WITH BARB RIGHTWARDSz LEFTWARDS
  aRIGHTWARDS HARPOON WITH BARB UPWARDSzARB DOWNWARDSaDOWNWARDS HARPOON WITH BARB RIGHTWARDSzRB LEFT
  WARDSaRIGHTWARDS ARROW OVER LEFTWARDS ARROWaUPWARDS ARROW LEFTWARDS OF DOWNWARDS ARROWaLEFTWARDS A
  RROW OVER RIGHTWARDS ARROWkPAIRED ARROWSaUPWARDS PAIRED ARROWSaRIGHTWARDS PAIRED ARROWSaDOWNWARDS 
  PAIRED ARROWSaLEFTWARDS HARPOON OVER RIGHTWARDS HARPOONaRIGHTWARDS HARPOON OVER LEFTWARDS HARPOONa
  LEFTWARDS DOUBLE ARROW WITH STROKEe RIGHT DOUBLE ARROW WITH STROKEaRIGHTWARDS DOUBLE ARROW WITH ST
  ROKEaLEFTWARDS DOUBLE ARROWaUPWARDS DOUBLE ARROWaRIGHTWARDS DOUBLE ARROWaDOWNWARDS DOUBLE ARROWaLE
  FT RIGHT DOUBLE ARROWaUP DOWN DOUBLE ARROWaNORTH WEST DOUBLE ARROWgEAST DOUBLE ARROWaSOUTH EAST DO
  UBLE ARROWgWEST DOUBLE ARROWaLEFTWARDS TRIPLE ARROWaRIGHTWARDS TRIPLE ARROWaLEFTWARDS SQUIGGLE ARR
  OWaRIGHTWARDS SQUIGGLE ARROWaUPWARDS ARROW WITH DOUBLE STROKEaDOWNWARDS ARROW WITH DOUBLE STROKEaL
  EFTWARDS DASHED ARROWaUPWARDS DASHED ARROWaRIGHTWARDS DASHED ARROWaDOWNWARDS DASHED ARROWaLEFTWARD
  S ARROW TO BARaRIGHTWARDS ARROW TO BARaLEFTWARDS WHITE ARROWaUPWARDS WHITE ARROWaRIGHTWARDS WHITE 
  ARROWaDOWNWARDS WHITE ARROWaUPWARDS WHITE ARROW FROM BARuON PEDESTALzDESTAL WITH HORIZONTAL BARzDE
  STAL WITH VERTICAL BARoDOUBLE ARROWzW ON PEDESTALaRIGHTWARDS WHITE ARROW FROM WALLaNORTH WEST ARRO
  W TO CORNERaSOUTH EAST ARROW TO CORNERaUP DOWN WHITE ARROWaRIGHT ARROW WITH SMALL CIRCLEaDOWNWARDS
   ARROW LEFTWARDS OF UPWARDS ARROWaTHREE RIGHTWARDS ARROWSaLEFTWARDS ARROW WITH VERTICAL STROKEaRIG
  HTWARDS ARROW WITH VERTICAL STROKEaLEFT RIGHT ARROW WITH VERTICAL STROKEeWARDS ARROW WITH DOUBLE V
  ERTICAL STROKEaRIGHTWARDS ARROW WITH DOUBLE VERTICAL STROKEaLEFT RIGHT ARROW WITH DOUBLE VERTICAL 
  STROKEeWARDS OPEN-HEADED ARROWaRIGHTWARDS OPEN-HEADED ARROWaLEFT RIGHT OPEN-HEADED ARROWaFOR ALLaC
  OMPLEMENTaPARTIAL DIFFERENTIALaTHERE EXISTSgDOES NOT EXISTaEMPTY SETaINCREMENTaNABLAaELEMENT OFaNO
  T AN ELEMENT OFaSMALL ELEMENT OFaCONTAINS AS MEMBERaDOES NOT CONTAIN AS MEMBERaSMALL CONTAINS AS M
  EMBERaEND OF PROOFaN-ARY PRODUCTgCOPRODUCTgSUMMATIONaMINUS SIGNf-OR-PLUS SIGNaDOT PLUSbIVISION SLA
  SHaSET MINUSaASTERISK OPERATORaRING OPERATORaBULLET OPERATORaSQUARE ROOTaCUBE ROOTaFOURTH ROOTaPRO
  PORTIONAL TOaINFINITYaRIGHT ANGLEaANGLEaMEASURED ANGLEaSPHERICAL ANGLEaDIVIDESbOES NOT DIVIDEaPARA
  LLEL TOaNOT PARALLEL TOaLOGICAL ANDiORaINTERSECTIONaUNIONaINTEGRALaDOUBLE INTEGRALaTRIPLE INTEGRAL
  aCONTOUR INTEGRALaSURFACE INTEGRALaVOLUME INTEGRALaCLOCKWISE INTEGRALkCONTOUR INTEGRALaANTICLOCKWI
  SE CONTOUR INTEGRALaTHEREFOREaBECAUSEaRATIOaPROPORTIONaDOT MINUSaEXCESSaGEOMETRIC PROPORTIONaHOMOT
  HETICaTILDE OPERATORaREVERSED TILDEaINVERTED LAZY SaSINE WAVEaWREATH PRODUCTaNOT TILDEaMINUS TILDE
  aASYMPTOTICALLY EQUAL TOaNOT ASYMPTOTICALLY EQUAL TOaAPPROXIMATELY EQUAL TOoBUT NOT ACTUALLY EQUAL
   TOaNEITHER APPROXIMATELY NOR ACTUALLY EQUAL TOaALMOST EQUAL TOaNOT ALMOST EQUAL TOaALMOST EQUAL O
  R EQUAL TOaTRIPLE TILDEaALL EQUAL TOaEQUIVALENT TOaGEOMETRICALLY EQUIVALENT TOaDIFFERENCE BETWEENa
  APPROACHES THE LIMITaGEOMETRICALLY EQUAL TOaAPPROXIMATELY EQUAL TO OR THE IMAGE OFaIMAGE OF OR APP
  ROXIMATELY EQUAL TOaCOLON EQUALSaEQUALS COLONaRING IN EQUAL TOfEQUAL TOaCORRESPONDS TOaESTIMATESbQ
  UIANGULAR TOaSTAR EQUALSaDELTA EQUAL TOaEQUAL TO BY DEFINITIONaMEASURED BYaQUESTIONED EQUAL TOaNOT
   EQUAL TOaIDENTICAL TOaNOT IDENTICAL TOaSTRICTLY EQUIVALENT TOaLESS-THAN OR EQUAL TOaGREATER-THAN 
  OR EQUAL TOaLESS-THAN OVER EQUAL TOaGREATER-THAN OVER EQUAL TOaLESS-THAN BUT NOT EQUAL TOaGREATER-
  THAN BUT NOT EQUAL TOaMUCH LESS-THANfGREATER-THANaBETWEENaNOT EQUIVALENT TOeLESS-THANeGREATER-THAN
  bEITHER LESS-THAN NOR EQUAL TOiGREATER-THAN NOR EQUAL TOaLESS-THAN OR EQUIVALENT TOaGREATER-THAN O
  R EQUIVALENT TOaNEITHER LESS-THAN NOR EQUIVALENT TOiGREATER-THAN NOR EQUIVALENT TOaLESS-THAN OR GR
  EATER-THANaGREATER-THAN OR LESS-THANaNEITHER LESS-THAN NOR GREATER-THANiGREATER-THAN NOR LESS-THAN
  aPRECEDESaSUCCEEDSaPRECEDES OR EQUAL TOaSUCCEEDS OR EQUAL TOaPRECEDES OR EQUIVALENT TOaSUCCEEDS OR
   EQUIVALENT TOaDOES NOT PRECEDEjSUCCEEDaSUBSET OFcPERSET OFaNOT A SUBSET OFiPERSET OFaSUBSET OF OR
   EQUAL TOcPERSET OF OR EQUAL TOaNEITHER A SUBSET OF NOR EQUAL TOmPERSET OF NOR EQUAL TOaSUBSET OF 
  WITH NOT EQUAL TOcPERSET OF WITH NOT EQUAL TOaMULTISETi MULTIPLICATIONjUNIONaSQUARE IMAGE OFhORIGI
  NAL OFhIMAGE OF OR EQUAL TOhORIGINAL OF OR EQUAL TOhCAPiUPaCIRCLED PLUSiMINUSiTIMESiDIVISION SLASH
  jOT OPERATORiRING OPERATORiASTERISK OPERATORiEQUALSiDASHaSQUARED PLUSiMINUSiTIMESiDOT OPERATORaRIG
  HT TACKaLEFT TACKaDOWN TACKaUP TACKaASSERTIONaMODELSaTRUEaFORCESaTRIPLE VERTICAL BAR RIGHT TURNSTI
  LEaDOUBLE VERTICAL BAR DOUBLE RIGHT TURNSTILEcES NOT PROVEaNOT TRUEaDOES NOT FORCEaNEGATED DOUBLE 
  VERTICAL BAR DOUBLE RIGHT TURNSTILEaPRECEDES UNDER RELATIONaSUCCEEDS UNDER RELATIONaNORMAL SUBGROU
  P OFaCONTAINS AS NORMAL SUBGROUPaNORMAL SUBGROUP OF OR EQUAL TOaCONTAINS AS NORMAL SUBGROUP OR EQU
  AL TOaORIGINAL OFaIMAGE OFaMULTIMAPaHERMITIAN CONJUGATE MATRIXaINTERCALATEaXORaNANDbORaRIGHT ANGLE
   WITH ARCgTRIANGLEaN-ARY LOGICAL ANDoORgINTERSECTIONgUNIONaDIAMOND OPERATORbOT OPERATORaSTAR OPERA
  TORaDIVISION TIMESaBOWTIEaLEFT NORMAL FACTOR SEMIDIRECT PRODUCTaRIGHT NORMAL FACTOR SEMIDIRECT PRO
  DUCTaLEFT SEMIDIRECT PRODUCTaRIGHT SEMIDIRECT PRODUCTbEVERSED TILDE EQUALSaCURLY LOGICAL ORoANDaDO
  UBLE SUBSETjPERSEThINTERSECTIONhUNIONaPITCHFORKaEQUAL AND PARALLEL TOaLESS-THAN WITH DOTaGREATER-T
  HAN WITH DOTaVERY MUCH LESS-THANkGREATER-THANaLESS-THAN EQUAL TO OR GREATER-THANaGREATER-THAN EQUA
  L TO OR LESS-THANaEQUAL TO OR LESS-THANmGREATER-THANmPRECEDESmSUCCEEDSaDOES NOT PRECEDE OR EQUALjS
  UCCEED OR EQUALaNOT SQUARE IMAGE OF OR EQUAL TOlORIGINAL OF OR EQUAL TOaSQUARE IMAGE OF OR NOT EQU
  AL TOhORIGINAL OF OR NOT EQUAL TOaLESS-THAN BUT NOT EQUIVALENT TOaGREATER-THAN BUT NOT EQUIVALENT 
  TOaPRECEDES BUT NOT EQUIVALENT TOaSUCCEEDS BUT NOT EQUIVALENT TOaNOT NORMAL SUBGROUP OFaDOES NOT C
  ONTAIN AS NORMAL SUBGROUPaNOT NORMAL SUBGROUP OF OR EQUAL TOaDOES NOT CONTAIN AS NORMAL SUBGROUP O
  R EQUALaVERTICAL ELLIPSISaMIDLINE HORIZONTAL ELLIPSISaUP RIGHT DIAGONAL ELLIPSISaDOWN RIGHT DIAGON
  AL ELLIPSISaELEMENT OF WITH LONG HORIZONTAL STROKEqVERTICAL BAR AT END OF HORIZONTAL STROKEaSMALL 
  ELEMENT OF WITH VERTICAL BAR AT END OF HORIZONTAL STROKEaELEMENT OF WITH DOT ABOVEqOVERBARaSMALL E
  LEMENT OF WITH OVERBARaELEMENT OF WITH UNDERBARqTWO HORIZONTAL STROKESaCONTAINS WITH LONG HORIZONT
  AL STROKEoVERTICAL BAR AT END OF HORIZONTAL STROKEaSMALL CONTAINS WITH VERTICAL BAR AT END OF HORI
  ZONTAL STROKEaCONTAINS WITH OVERBARaSMALL CONTAINS WITH OVERBARaZ NOTATION BAG MEMBERSHIPaDIAMETER
   SIGNaELECTRIC ARROWaHOUSEaUP ARROWHEADaDOWN ARROWHEADaPROJECTIVEbERSPECTIVEaWAVY LINEaLEFT CEILIN
  GaRIGHT CEILINGaLEFT FLOORaRIGHT FLOORaBOTTOM RIGHT CROPhLEFT CROPaTOP RIGHT CROPeLEFT CROPaREVERS
  ED NOT SIGNaSQUARE LOZENGEaARCaSEGMENTcCTORaTELEPHONE RECORDERaPOSITION INDICATORaVIEWDATA SQUAREa
  PLACE OF INTEREST SIGNaTURNED NOT SIGNaWATCHaHOURGLASSaTOP LEFT CORNEReRIGHT CORNERaBOTTOM LEFT CO
  RNERhRIGHT CORNERaTOP HALF INTEGRALaBOTTOM HALF INTEGRALaFROWNaSMILEaUP ARROWHEAD BETWEEN TWO HORI
  ZONTAL BARSaOPTION KEYaERASE TO THE RIGHTaX IN A RECTANGLE BOXaKEYBOARDaLEFT-POINTING ANGLE BRACKE
  TaRIGHT-POINTING ANGLE BRACKETaERASE TO THE LEFTaBENZENE RINGaCYLINDRICITYaALL AROUND-PROFILEaSYMM
  ETRYaTOTAL RUNOUTaDIMENSION ORIGINaCONICAL TAPERaSLOPEaCOUNTERBOREhSINKaAPL FUNCTIONAL SYMBOL I-BE
  AMwSQUISH QUADwQUAD EQUALzD DIVIDEzD DIAMONDzD JOTzD CIRCLEwCIRCLE STILEzCLE JOTwSLASH BARwBACKSLA
  SH BARwQUAD SLASHzD BACKSLASHzD LESS-THANzD GREATER-THANwLEFTWARDS VANEwRIGHTWARDS VANEwQUAD LEFTW
  ARDS ARROWzD RIGHTWARDS ARROWwCIRCLE BACKSLASHwDOWN TACK UNDERBARxELTA STILEwQUAD DOWN CARETzD DEL
  TAwDOWN TACK JOTwUPWARDS VANEwQUAD UPWARDS ARROWwUP TACK OVERBARwDEL STILEwQUAD UP CARETzD DELwUP 
  TACK JOTwDOWNWARDS VANEwQUAD DOWNWARDS ARROWyOTE UNDERBARwDELTA UNDERBARxIAMOND UNDERBARwJOT UNDER
  BARwCIRCLE UNDERBARwUP SHOE JOTwQUOTE QUADwCIRCLE STARwQUAD COLONwUP TACK DIAERESISwDEL DIAERESISw
  STAR DIAERESISwJOT DIAERESISwCIRCLE DIAERESISwDOWN SHOE STILEwLEFT SHOE STILEwTILDE DIAERESISwGREA
  TER-THAN DIAERESISwCOMMA BARwDEL TILDEwZILDEwSTILE TILDExEMICOLON UNDERBARwQUAD NOT EQUALzD QUESTI
  ONwDOWN CARET TILDEwUP CARET TILDEwIOTAwRHOwOMEGAwALPHA UNDERBARwEPSILON UNDERBARwIOTA UNDERBARwOM
  EGA UNDERBARwALPHAaNOT CHECK MARKaRIGHT ANGLE WITH DOWNWARDS ZIGZAG ARROWaSHOULDERED OPEN BOXaBELL
   SYMBOLaVERTICAL LINE WITH MIDDLE DOTaINSERTION SYMBOLaCONTINUOUS UNDERLINE SYMBOLaDISCONTINUOUS U
  NDERLINE SYMBOLaEMPHASIS SYMBOLaCOMPOSITION SYMBOLaWHITE SQUARE WITH CENTRE VERTICAL LINEaENTER SY
  MBOLaALTERNATIVE KEY SYMBOLaHELM SYMBOLaCIRCLED HORIZONTAL BAR WITH NOTCHiTRIANGLE DOWNaBROKEN CIR
  CLE WITH NORTHWEST ARROWaUNDO SYMBOLaMONOSTABLE SYMBOLaHYSTERESIS SYMBOLaOPEN-CIRCUIT-OUTPUT H-TYP
  E SYMBOLuL-TYPE SYMBOLaPASSIVE-PULL-DOWN-OUTPUT SYMBOLnUP-OUTPUT SYMBOLaDIRECT CURRENT SYMBOL FORM
   TWOaSOFTWARE-FUNCTION SYMBOLaAPL FUNCTIONAL SYMBOL QUADaDECIMAL SEPARATOR KEY SYMBOLaPREVIOUS PAG
  EaNEXT PAGEaPRINT SCREEN SYMBOLaCLEAR SCREEN SYMBOLaLEFT PARENTHESIS UPPER HOOKrEXTENSIONrLOWER HO
  OKaRIGHT PARENTHESIS UPPER HOOKsEXTENSIONsLOWER HOOKaLEFT SQUARE BRACKET UPPER CORNERuEXTENSIONuLO
  WER CORNERaRIGHT SQUARE BRACKET UPPER CORNERvEXTENSIONvLOWER CORNERaLEFT CURLY BRACKET UPPER HOOKt
  MIDDLE PIECEtLOWER HOOKaCURLY BRACKET EXTENSIONaRIGHT CURLY BRACKET UPPER HOOKuMIDDLE PIECEuLOWER 
  HOOKaINTEGRAL EXTENSIONaHORIZONTAL LINE EXTENSIONaUPPER LEFT OR LOWER RIGHT CURLY BRACKET SECTIONg
  RIGHT OR LOWER LEFT CURLY BRACKET SECTIONaSUMMATION TOPkBOTTOMaTOP SQUARE BRACKETaBOTTOM SQUARE BR
  ACKETv OVER TOP SQUARE BRACKETaRADICAL SYMBOL BOTTOMaLEFT VERTICAL BOX LINEaRIGHT VERTICAL BOX LIN
  EaHORIZONTAL SCAN LINE-1v3v7v9aDENTISTRY SYMBOL LIGHT VERTICAL AND TOP RIGHTzRTICAL AND BOTTOM RIG
  HTzRTICAL WITH CIRCLExDOWN AND HORIZONTAL WITH CIRCLExUP AND HORIZONTAL WITH CIRCLExVERTICAL WITH 
  TRIANGLExDOWN AND HORIZONTAL WITH TRIANGLExUP AND HORIZONTAL WITH TRIANGLExVERTICAL AND WAVExDOWN 
  AND HORIZONTAL WITH WAVExUP AND HORIZONTAL WITH WAVExDOWN AND HORIZONTALxUP AND HORIZONTALxVERTICA
  L AND TOP LEFTzRTICAL AND BOTTOM LEFTaSQUARE FOOTaRETURN SYMBOLaEJECT SYMBOLaVERTICAL LINE EXTENSI
  ONaMETRICAL BREVEjLONG OVER SHORTjSHORT OVER LONGjLONG OVER TWO SHORTSjTWO SHORTS OVER LONGuJOINED
  kRISEMEkETRASEMEjPENTASEMEaEARTH GROUNDaFUSEaTOP PARENTHESISaBOTTOM PARENTHESISaTOP CURLY BRACKETa
  BOTTOM CURLY BRACKETaTOP TORTOISE SHELL BRACKETaBOTTOM TORTOISE SHELL BRACKETaWHITE TRAPEZIUMaBENZ
  ENE RING WITH CIRCLEaSTRAIGHTNESSaFLATNESSaAC CURRENTaELECTRICAL INTERSECTIONaDECIMAL EXPONENT SYM
  BOLaBLACK RIGHT-POINTING DOUBLE TRIANGLEgLEFT-POINTING DOUBLE TRIANGLEgUP-POINTING DOUBLE TRIANGLE
  gDOWN-POINTING DOUBLE TRIANGLEgRIGHT-POINTING DOUBLE TRIANGLE WITH VERTICAL BARgLEFT-POINTING DOUB
  LE TRIANGLE WITH VERTICAL BARgRIGHT-POINTING TRIANGLE WITH DOUBLE VERTICAL BARaALARM CLOCKaSTOPWAT
  CHaTIMER CLOCKaHOURGLASS WITH FLOWING SANDaBLACK MEDIUM LEFT-POINTING TRIANGLEnRIGHT-POINTING TRIA
  NGLEnUP-POINTING TRIANGLEnDOWN-POINTING TRIANGLEaDOUBLE VERTICAL BARaBLACK SQUARE FOR STOPgCIRCLE 
  FOR RECORDaPOWER SYMBOLgON-OFF SYMBOLi SYMBOLgSLEEP SYMBOLaOBSERVER EYE SYMBOLaSYMBOL FOR NULLlSTA
  RT OF HEADINGuTEXTlEND OF TEXTtRANSMISSIONnQUIRYlACKNOWLEDGElBELLmACKSPACElHORIZONTAL TABULATIONlL
  INE FEEDlVERTICAL TABULATIONlFORM FEEDlCARRIAGE RETURNlSHIFT OUTrINlDATA LINK ESCAPEmEVICE CONTROL
   ONEz TWOz THREEz FOURlNEGATIVE ACKNOWLEDGElSYNCHRONOUS IDLElEND OF TRANSMISSION BLOCKlCANCELlEND 
  OF MEDIUMlSUBSTITUTElESCAPElFILE SEPARATORlGROUP SEPARATORlRECORD SEPARATORlUNIT SEPARATORlSPACElD
  ELETEaBLANK SYMBOLaOPEN BOXaSYMBOL FOR NEWLINElDELETE FORM TWOlSUBSTITUTE FORM TWO+2440.aOCR HOOKe
  CHAIReFORKeINVERTED FORKeBELT BUCKLEfOW TIEfRANCH BANK IDENTIFICATIONeAMOUNT OF CHECKeDASHeCUSTOME
  R ACCOUNT NUMBEReDOUBLE BACKSLASH+2460.aCIRCLED DIGIT ONEoTWOpHREEoFOURpIVEoSIXpEVENoEIGHToNINEiNU
  MBER TENpELEVENpTWELVEqHIRTEENpFOURTEENqIFTEENpSIXTEENqEVENTEENpEIGHTEENpNINETEENpTWENTYaPARENTHES
  IZED DIGIT ONEuTWOvHREEuFOURvIVEuSIXvEVENuEIGHTuNINEoNUMBER TENvELEVENvTWELVEwHIRTEENvFOURTEENwIFT
  EENvSIXTEENwEVENTEENvEIGHTEENvNINETEENvTWENTYaDIGIT ONE FULL STOPgTWO FULL STOPhHREE FULL STOPgFOU
  R FULL STOPhIVE FULL STOPgSIX FULL STOPhEVEN FULL STOPgEIGHT FULL STOPgNINE FULL STOPaNUMBER TEN F
  ULL STOPhELEVEN FULL STOPhTWELVE FULL STOPiHIRTEEN FULL STOPhFOURTEEN FULL STOPiIFTEEN FULL STOPhS
  IXTEEN FULL STOPiEVENTEEN FULL STOPhEIGHTEEN FULL STOPhNINETEEN FULL STOPhTWENTY FULL STOPaPARENTH
  ESIZED LATIN SMALL LETTER Az LETTER Bz LETTER Cz LETTER Dz LETTER Ez LETTER Fz LETTER Gz LETTER Hz
   LETTER Iz LETTER Jz LETTER Kz LETTER Lz LETTER Mz LETTER Nz LETTER Oz LETTER Pz LETTER Qz LETTER 
  Rz LETTER Sz LETTER Tz LETTER Uz LETTER Vz LETTER Wz LETTER Xz LETTER Yz LETTER ZaCIRCLED LATIN CA
  PITAL LETTER AzTER BzTER CzTER DzTER EzTER FzTER GzTER HzTER IzTER JzTER KzTER LzTER MzTER NzTER O
  zTER PzTER QzTER RzTER SzTER TzTER UzTER VzTER WzTER XzTER YzTER ZoSMALL LETTER AzR BzR CzR DzR Ez
  R FzR GzR HzR IzR JzR KzR LzR MzR NzR OzR PzR QzR RzR SzR TzR UzR VzR WzR XzR YzR ZiDIGIT ZEROaNEG
  ATIVE CIRCLED NUMBER ELEVENyTWELVEzHIRTEENyFOURTEENzIFTEENySIXTEENzEVENTEENyEIGHTEENyNINETEENyTWEN
  TYaDOUBLE CIRCLED DIGIT ONEvTWOwHREEvFOURwIVEvSIXwEVENvEIGHTvNINEpNUMBER TENaNEGATIVE CIRCLED DIGI
  T ZEROaBOX DRAWINGS LIGHT HORIZONTALnHEAVY HORIZONTALnLIGHT VERTICALnHEAVY VERTICALnLIGHT TRIPLE D
  ASH HORIZONTALnHEAVY TRIPLE DASH HORIZONTALnLIGHT TRIPLE DASH VERTICALnHEAVY TRIPLE DASH VERTICALn
  LIGHT QUADRUPLE DASH HORIZONTALnHEAVY QUADRUPLE DASH HORIZONTALnLIGHT QUADRUPLE DASH VERTICALnHEAV
  Y QUADRUPLE DASH VERTICALnLIGHT DOWN AND RIGHTnDOWN LIGHT AND RIGHT HEAVYsHEAVY AND RIGHT LIGHTnHE
  AVY DOWN AND RIGHTnLIGHT DOWN AND LEFTnDOWN LIGHT AND LEFT HEAVYsHEAVY AND LEFT LIGHTnHEAVY DOWN A
  ND LEFTnLIGHT UP AND RIGHTnUP LIGHT AND RIGHT HEAVYqHEAVY AND RIGHT LIGHTnHEAVY UP AND RIGHTnLIGHT
   UP AND LEFTnUP LIGHT AND LEFT HEAVYqHEAVY AND LEFT LIGHTnHEAVY UP AND LEFTnLIGHT VERTICAL AND RIG
  HTnVERTICAL LIGHT AND RIGHT HEAVYnUP HEAVY AND RIGHT DOWN LIGHTnDOWN HEAVY AND RIGHT UP LIGHTnVERT
  ICAL HEAVY AND RIGHT LIGHTnDOWN LIGHT AND RIGHT UP HEAVYnUP LIGHT AND RIGHT DOWN HEAVYnHEAVY VERTI
  CAL AND RIGHTnLIGHT VERTICAL AND LEFTnVERTICAL LIGHT AND LEFT HEAVYnUP HEAVY AND LEFT DOWN LIGHTnD
  OWN HEAVY AND LEFT UP LIGHTnVERTICAL HEAVY AND LEFT LIGHTnDOWN LIGHT AND LEFT UP HEAVYnUP LIGHT AN
  D LEFT DOWN HEAVYnHEAVY VERTICAL AND LEFTnLIGHT DOWN AND HORIZONTALoEFT HEAVY AND RIGHT DOWN LIGHT
  nRIGHT HEAVY AND LEFT DOWN LIGHTnDOWN LIGHT AND HORIZONTAL HEAVYsHEAVY AND HORIZONTAL LIGHTnRIGHT 
  LIGHT AND LEFT DOWN HEAVYnLEFT LIGHT AND RIGHT DOWN HEAVYnHEAVY DOWN AND HORIZONTALnLIGHT UP AND H
  ORIZONTALoEFT HEAVY AND RIGHT UP LIGHTnRIGHT HEAVY AND LEFT UP LIGHTnUP LIGHT AND HORIZONTAL HEAVY
  qHEAVY AND HORIZONTAL LIGHTnRIGHT LIGHT AND LEFT UP HEAVYnLEFT LIGHT AND RIGHT UP HEAVYnHEAVY UP A
  ND HORIZONTALnLIGHT VERTICAL AND HORIZONTALoEFT HEAVY AND RIGHT VERTICAL LIGHTnRIGHT HEAVY AND LEF
  T VERTICAL LIGHTnVERTICAL LIGHT AND HORIZONTAL HEAVYnUP HEAVY AND DOWN HORIZONTAL LIGHTnDOWN HEAVY
   AND UP HORIZONTAL LIGHTnVERTICAL HEAVY AND HORIZONTAL LIGHTnLEFT UP HEAVY AND RIGHT DOWN LIGHTnRI
  GHT UP HEAVY AND LEFT DOWN LIGHTnLEFT DOWN HEAVY AND RIGHT UP LIGHTnRIGHT DOWN HEAVY AND LEFT UP L
  IGHTnDOWN LIGHT AND UP HORIZONTAL HEAVYnUP LIGHT AND DOWN HORIZONTAL HEAVYnRIGHT LIGHT AND LEFT VE
  RTICAL HEAVYnLEFT LIGHT AND RIGHT VERTICAL HEAVYnHEAVY VERTICAL AND HORIZONTALnLIGHT DOUBLE DASH H
  ORIZONTALnHEAVY DOUBLE DASH HORIZONTALnLIGHT DOUBLE DASH VERTICALnHEAVY DOUBLE DASH VERTICALnDOUBL
  E HORIZONTALuVERTICALpWN SINGLE AND RIGHT DOUBLEsDOUBLE AND RIGHT SINGLEpUBLE DOWN AND RIGHTpWN SI
  NGLE AND LEFT DOUBLEsDOUBLE AND LEFT SINGLEpUBLE DOWN AND LEFTnUP SINGLE AND RIGHT DOUBLEqDOUBLE A
  ND RIGHT SINGLEnDOUBLE UP AND RIGHTnUP SINGLE AND LEFT DOUBLEqDOUBLE AND LEFT SINGLEnDOUBLE UP AND
   LEFTnVERTICAL SINGLE AND RIGHT DOUBLEwDOUBLE AND RIGHT SINGLEnDOUBLE VERTICAL AND RIGHTnVERTICAL 
  SINGLE AND LEFT DOUBLEwDOUBLE AND LEFT SINGLEnDOUBLE VERTICAL AND LEFTpWN SINGLE AND HORIZONTAL DO
  UBLEsDOUBLE AND HORIZONTAL SINGLEpUBLE DOWN AND HORIZONTALnUP SINGLE AND HORIZONTAL DOUBLEqDOUBLE 
  AND HORIZONTAL SINGLEnDOUBLE UP AND HORIZONTALnVERTICAL SINGLE AND HORIZONTAL DOUBLEwDOUBLE AND HO
  RIZONTAL SINGLEnDOUBLE VERTICAL AND HORIZONTALnLIGHT ARC DOWN AND RIGHTzWN AND LEFTxUP AND LEFTz A
  ND RIGHTtDIAGONAL UPPER RIGHT TO LOWER LEFTzAL UPPER LEFT TO LOWER RIGHTzAL CROSStLEFTtUPtRIGHTtDO
  WNnHEAVY LEFTtUPtRIGHTtDOWNnLIGHT LEFT AND HEAVY RIGHTtUP AND HEAVY DOWNnHEAVY LEFT AND LIGHT RIGH
  TtUP AND LIGHT DOWNaUPPER HALF BLOCKaLOWER ONE EIGHTH BLOCKkQUARTER BLOCKgTHREE EIGHTHS BLOCKgHALF
   BLOCKgFIVE EIGHTHS BLOCKgTHREE QUARTERS BLOCKgSEVEN EIGHTHS BLOCKaFULL BLOCKaLEFT SEVEN EIGHTHS B
  LOCKfTHREE QUARTERS BLOCKfFIVE EIGHTHS BLOCKfHALF BLOCKfTHREE EIGHTHS BLOCKfONE QUARTER BLOCKjEIGH
  TH BLOCKaRIGHT HALF BLOCKaLIGHT SHADEaMEDIUM SHADEaDARK SHADEaUPPER ONE EIGHTH BLOCKaRIGHT ONE EIG
  HTH BLOCKaQUADRANT LOWER LEFTpRIGHTjUPPER LEFTt AND LOWER LEFT AND LOWER RIGHTzOWER RIGHTyUPPER RI
  GHT AND LOWER LEFTzPPER RIGHT AND LOWER RIGHTpRIGHTu AND LOWER LEFTzLOWER LEFT AND LOWER RIGHTaBLA
  CK SQUAREaWHITE SQUAREm WITH ROUNDED CORNERSnCONTAINING BLACK SMALL SQUAREaSQUARE WITH HORIZONTAL 
  FILLmVERTICAL FILLmORTHOGONAL CROSSHATCH FILLmUPPER LEFT TO LOWER RIGHT FILLsRIGHT TO LOWER LEFT F
  ILLmDIAGONAL CROSSHATCH FILLaBLACK SMALL SQUAREaWHITE SMALL SQUAREaBLACK RECTANGLEaWHITE RECTANGLE
  aBLACK VERTICAL RECTANGLEaWHITE VERTICAL RECTANGLEaBLACK PARALLELOGRAMaWHITE PARALLELOGRAMaBLACK U
  P-POINTING TRIANGLEaWHITE UP-POINTING TRIANGLEaBLACK UP-POINTING SMALL TRIANGLEaWHITE UP-POINTING 
  SMALL TRIANGLEaBLACK RIGHT-POINTING TRIANGLEaWHITE RIGHT-POINTING TRIANGLEaBLACK RIGHT-POINTING SM
  ALL TRIANGLEaWHITE RIGHT-POINTING SMALL TRIANGLEaBLACK RIGHT-POINTING POINTERaWHITE RIGHT-POINTING
   POINTERaBLACK DOWN-POINTING TRIANGLEaWHITE DOWN-POINTING TRIANGLEaBLACK DOWN-POINTING SMALL TRIAN
  GLEaWHITE DOWN-POINTING SMALL TRIANGLEaBLACK LEFT-POINTING TRIANGLEaWHITE LEFT-POINTING TRIANGLEaB
  LACK LEFT-POINTING SMALL TRIANGLEaWHITE LEFT-POINTING SMALL TRIANGLEaBLACK LEFT-POINTING POINTERaW
  HITE LEFT-POINTING POINTERaBLACK DIAMONDaWHITE DIAMONDn CONTAINING BLACK SMALL DIAMONDaFISHEYEaLOZ
  ENGEaWHITE CIRCLEaDOTTED CIRCLEaCIRCLE WITH VERTICAL FILLaBULLSEYEbLACK CIRCLEaCIRCLE WITH LEFT HA
  LF BLACKmRIGHT HALF BLACKmLOWER HALF BLACKmUPPER HALF BLACKsRIGHT QUADRANT BLACKmALL BUT UPPER LEF
  T QUADRANT BLACKaLEFT HALF BLACK CIRCLEaRIGHT HALF BLACK CIRCLEaINVERSE BULLETiWHITE CIRCLEaUPPER 
  HALF INVERSE WHITE CIRCLEaLOWER HALF INVERSE WHITE CIRCLEaUPPER LEFT QUADRANT CIRCULAR ARCgRIGHT Q
  UADRANT CIRCULAR ARCaLOWER RIGHT QUADRANT CIRCULAR ARCgLEFT QUADRANT CIRCULAR ARCaUPPER HALF CIRCL
  EaLOWER HALF CIRCLEaBLACK LOWER RIGHT TRIANGLEmLEFT TRIANGLEgUPPER LEFT TRIANGLEmRIGHT TRIANGLEaWH
  ITE BULLETaSQUARE WITH LEFT HALF BLACKmRIGHT HALF BLACKmUPPER LEFT DIAGONAL HALF BLACKmLOWER RIGHT
   DIAGONAL HALF BLACKaWHITE SQUARE WITH VERTICAL BISECTING LINEgUP-POINTING TRIANGLE WITH DOTaUP-PO
  INTING TRIANGLE WITH LEFT HALF BLACKz RIGHT HALF BLACKaLARGE CIRCLEaWHITE SQUARE WITH UPPER LEFT Q
  UADRANTsLOWER LEFT QUADRANTyRIGHT QUADRANTsUPPER RIGHT QUADRANTgCIRCLE WITH UPPER LEFT QUADRANTsLO
  WER LEFT QUADRANTyRIGHT QUADRANTsUPPER RIGHT QUADRANTaUPPER LEFT TRIANGLEgRIGHT TRIANGLEaLOWER LEF
  T TRIANGLEaWHITE MEDIUM SQUAREaBLACK MEDIUM SQUAREaWHITE MEDIUM SMALL SQUAREaBLACK MEDIUM SMALL SQ
  UAREaLOWER RIGHT TRIANGLEaBLACK SUN WITH RAYSaCLOUDaUMBRELLAaSNOWMANaCOMETaBLACK STARaWHITE STARaL
  IGHTNINGaTHUNDERSTORMaSUNaASCENDING NODEaDESCENDING NODEaCONJUNCTIONaOPPOSITIONaBLACK TELEPHONEaWH
  ITE TELEPHONEaBALLOT BOXk WITH CHECKqXaSALTIREaUMBRELLA WITH RAIN DROPSaHOT BEVERAGEaWHITE SHOGI P
  IECEaBLACK SHOGI PIECEaSHAMROCKaREVERSED ROTATED FLORAL HEART BULLETaBLACK LEFT POINTING INDEXgRIG
  HT POINTING INDEXaWHITE LEFT POINTING INDEXgUP POINTING INDEXgRIGHT POINTING INDEXgDOWN POINTING I
  NDEXaSKULL AND CROSSBONESaCAUTION SIGNaRADIOACTIVE SIGNaBIOHAZARD SIGNaCADUCEUSaANKHaORTHODOX CROS
  SaCHI RHObROSS OF LORRAINEjJERUSALEMaSTAR AND CRESCENTaFARSI SYMBOLaADI SHAKTIaHAMMER AND SICKLEaP
  EACE SYMBOLaYIN YANGaTRIGRAM FOR HEAVENmLAKEmFIREmTHUNDERmWINDnATERmMOUNTAINmEARTHaWHEEL OF DHARMA
  cITE FROWNING FACEgSMILING FACEaBLACK SMILING FACEaWHITE SUN WITH RAYSaFIRST QUARTER MOONaLAST QUA
  RTER MOONaMERCURYaFEMALE SIGNaEARTHaMALE SIGNaJUPITERaSATURNaURANUSaNEPTUNEaPLUTOaARIESaTAURUSaGEM
  INIaCANCERaLEOaVIRGOaLIBRAaSCORPIUSbAGITTARIUSaCAPRICORNaAQUARIUSaPISCESaWHITE CHESS KINGmQUEENmRO
  OKmBISHOPmKNIGHTmPAWNaBLACK CHESS KINGmQUEENmROOKmBISHOPmKNIGHTmPAWNgSPADE SUITaWHITE HEART SUITgD
  IAMOND SUITaBLACK CLUB SUITaWHITE SPADE SUITaBLACK HEART SUITgDIAMOND SUITaWHITE CLUB SUITaHOT SPR
  INGSaQUARTER NOTEaEIGHTH NOTEaBEAMED EIGHTH NOTEShSIXTEENTH NOTESaMUSIC FLAT SIGNgNATURAL SIGNgSHA
  RP SIGNaWEST SYRIAC CROSSaEAST SYRIAC CROSSaUNIVERSAL RECYCLING SYMBOLaRECYCLING SYMBOL FOR TYPE-1
   PLASTICSz-2 PLASTICSz-3 PLASTICSz-4 PLASTICSz-5 PLASTICSz-6 PLASTICSz-7 PLASTICSvGENERIC MATERIAL
  SaBLACK UNIVERSAL RECYCLING SYMBOLaRECYCLED PAPER SYMBOLaPARTIALLY-RECYCLED PAPER SYMBOLbERMANENT 
  PAPER SIGNaWHEELCHAIR SYMBOLaDIE FACE-1j2j3j4j5j6aWHITE CIRCLE WITH DOT RIGHTsTWO DOTSaBLACK CIRCL
  E WITH WHITE DOT RIGHTsTWO WHITE DOTSaMONOGRAM FOR YANGoINaDIGRAM FOR GREATER YANGlLESSER YINtANGl
  GREATER YINaWHITE FLAGaBLACK FLAGaHAMMER AND PICKaANCHORaCROSSED SWORDSaSTAFF OF AESCULAPIUSbCALES
  aALEMBICaFLOWERaGEARaSTAFF OF HERMESaATOM SYMBOLaFLEUR-DE-LISaOUTLINED WHITE STARaTHREE LINES CONV
  ERGING RIGHTxLEFTaWARNING SIGNaHIGH VOLTAGE SIGNaDOUBLED FEMALE SIGNiMALE SIGNaINTERLOCKED FEMALE 
  AND MALE SIGNaMALE AND FEMALE SIGNfWITH STROKE SIGNrAND MALE AND FEMALE SIGNaVERTICAL MALE WITH ST
  ROKE SIGNaHORIZONTAL MALE WITH STROKE SIGNaMEDIUM WHITE CIRCLEhBLACK CIRCLEhSMALL WHITE CIRCLEbARR
  IAGE SYMBOLaDIVORCE SYMBOLaUNMARRIED PARTNERSHIP SYMBOLaCOFFINaFUNERAL URNaNEUTERaCERESaPALLASaJUN
  OaVESTAaCHIRONaBLACK MOON LILITHaSEXTILEcMISEXTILEaQUINCUNXaSESQUIQUADRATEbOCCER BALLaBASEBALLaSQU
  ARED KEYaWHITE DRAUGHTS MANpKINGaBLACK DRAUGHTS MANpKINGaSNOWMAN WITHOUT SNOWbUN BEHIND CLOUDaRAIN
  aBLACK SNOWMANaTHUNDER CLOUD AND RAINbURNED WHITE SHOGI PIECEhBLACK SHOGI PIECEaWHITE DIAMOND IN S
  QUAREaCROSSING LANESaDISABLED CARaOPHIUCHUSaPICKaCAR SLIDINGaHELMET WITH WHITE CROSSaCIRCLED CROSS
  ING LANESbHAINSaNO ENTRYaALTERNATE ONE-WAY LEFT WAY TRAFFICaBLACK TWO-WAY LEFT WAY TRAFFICaWHITE T
  WO-WAY LEFT WAY TRAFFICaBLACK LEFT LANE MERGEaWHITE LEFT LANE MERGEaDRIVE SLOW SIGNaHEAVY WHITE DO
  WN-POINTING TRIANGLEaLEFT CLOSED ENTRYaSQUARED SALTIREaFALLING DIAGONAL IN WHITE CIRCLE IN BLACK S
  QUAREaBLACK TRUCKaRESTRICTED LEFT ENTRY-1w2aASTRONOMICAL SYMBOL FOR URANUSaHEAVY CIRCLE WITH STROK
  E AND TWO DOTS ABOVEaPENTAGRAMaRIGHT-HANDED INTERLACED PENTAGRAMaLEFT-HANDED INTERLACED PENTAGRAMa
  INVERTED PENTAGRAMaBLACK CROSS ON SHIELDaSHINTO SHRINEaCHURCHbASTLEaHISTORIC SITEaGEAR WITHOUT HUB
  j HANDLESaMAP SYMBOL FOR LIGHTHOUSEbOUNTAINaUMBRELLA ON GROUNDaFOUNTAINbLAG IN HOLEbERRYaSAILBOATb
  QUARE FOUR CORNERSbKIERaICE SKATEaPERSON WITH BALLaTENTaJAPANESE BANK SYMBOLaHEADSTONE GRAVEYARD S
  YMBOLaFUEL PUMPaCUP ON BLACK SQUAREaWHITE FLAG WITH HORIZONTAL MIDDLE BLACK STRIPEaBLACK SAFETY SC
  ISSORSaUPPER BLADE SCISSORSaBLACK SCISSORSaLOWER BLADE SCISSORSaWHITE SCISSORSgHEAVY CHECK MARKaTE
  LEPHONE LOCATION SIGNbAPE DRIVEaAIRPLANEaENVELOPEaRAISED FISThHANDaVICTORY HANDaWRITING HANDaLOWER
   RIGHT PENCILaPENCILaUPPER RIGHT PENCILaWHITE NIBaBLACK NIBaCHECK MARKaHEAVY CHECK MARKaMULTIPLICA
  TION XaHEAVY MULTIPLICATION XaBALLOT XaHEAVY BALLOT XaOUTLINED GREEK CROSSaHEAVY GREEK CROSSaOPEN 
  CENTRE CROSSaHEAVY OPEN CENTRE CROSSaLATIN CROSSaSHADOWED WHITE LATIN CROSSaOUTLINED LATIN CROSSaM
  ALTESE CROSSaSTAR OF DAVIDaFOUR TEARDROP-SPOKED ASTERISKfBALLOON-SPOKED ASTERISKaHEAVY FOUR BALLOO
  N-SPOKED ASTERISKaFOUR CLUB-SPOKED ASTERISKaBLACK FOUR POINTED STARaWHITE FOUR POINTED STARaSPARKL
  ESbTRESS OUTLINED WHITE STARaCIRCLED WHITE STARaOPEN CENTRE BLACK STARaBLACK CENTRE WHITE STARaOUT
  LINED BLACK STARaHEAVY OUTLINED BLACK STARaPINWHEEL STARaSHADOWED WHITE STARaHEAVY ASTERISKaOPEN C
  ENTRE ASTERISKaEIGHT SPOKED ASTERISKgPOINTED BLACK STARoPINWHEEL STARaSIX POINTED BLACK STARaEIGHT
   POINTED RECTILINEAR BLACK STARaHEAVY EIGHT POINTED RECTILINEAR BLACK STARaTWELVE POINTED BLACK ST
  ARaSIXTEEN POINTED ASTERISKaTEARDROP-SPOKED ASTERISKaOPEN CENTRE TEARDROP-SPOKED ASTERISKaHEAVY TE
  ARDROP-SPOKED ASTERISKaSIX PETALLED BLACK AND WHITE FLORETTEaBLACK FLORETTEaWHITE FLORETTEaEIGHT P
  ETALLED OUTLINED BLACK FLORETTEaCIRCLED OPEN CENTRE EIGHT POINTED STARaHEAVY TEARDROP-SPOKED PINWH
  EEL ASTERISKaSNOWFLAKEaTIGHT TRIFOLIATE SNOWFLAKEaHEAVY CHEVRON SNOWFLAKEaSPARKLEaHEAVY SPARKLEaBA
  LLOON-SPOKED ASTERISKaEIGHT TEARDROP-SPOKED PROPELLER ASTERISKaHEAVY EIGHT TEARDROP-SPOKED PROPELL
  ER ASTERISKaCROSS MARKaSHADOWED WHITE CIRCLEaNEGATIVE SQUARED CROSS MARKaLOWER RIGHT DROP-SHADOWED
   WHITE SQUAREaUPPER RIGHT DROP-SHADOWED WHITE SQUAREaLOWER RIGHT SHADOWED WHITE SQUAREaUPPER RIGHT
   SHADOWED WHITE SQUAREaBLACK QUESTION MARK ORNAMENTaWHITE QUESTION MARK ORNAMENTgEXCLAMATION MARK 
  ORNAMENTaBLACK DIAMOND MINUS WHITE XaHEAVY EXCLAMATION MARK SYMBOLaLIGHT VERTICAL BARaMEDIUM VERTI
  CAL BARaHEAVY VERTICAL BARgSINGLE TURNED COMMA QUOTATION MARK ORNAMENTnCOMMA QUOTATION MARK ORNAME
  NTgDOUBLE TURNED COMMA QUOTATION MARK ORNAMENTnCOMMA QUOTATION MARK ORNAMENTgLOW SINGLE COMMA QUOT
  ATION MARK ORNAMENTkDOUBLE COMMA QUOTATION MARK ORNAMENTaCURVED STEM PARAGRAPH SIGN ORNAMENTaHEAVY
   EXCLAMATION MARK ORNAMENTgHEART EXCLAMATION MARK ORNAMENTgBLACK HEARTaROTATED HEAVY BLACK HEART B
  ULLETaFLORAL HEARTaROTATED FLORAL HEART BULLETaMEDIUM LEFT PARENTHESIS ORNAMENThRIGHT PARENTHESIS 
  ORNAMENThFLATTENED LEFT PARENTHESIS ORNAMENTrRIGHT PARENTHESIS ORNAMENThLEFT-POINTING ANGLE BRACKE
  T ORNAMENThRIGHT-POINTING ANGLE BRACKET ORNAMENTaHEAVY LEFT-POINTING ANGLE QUOTATION MARK ORNAMENT
  gRIGHT-POINTING ANGLE QUOTATION MARK ORNAMENTgLEFT-POINTING ANGLE BRACKET ORNAMENTgRIGHT-POINTING 
  ANGLE BRACKET ORNAMENTaLIGHT LEFT TORTOISE SHELL BRACKET ORNAMENTgRIGHT TORTOISE SHELL BRACKET ORN
  AMENTaMEDIUM LEFT CURLY BRACKET ORNAMENThRIGHT CURLY BRACKET ORNAMENTaDINGBAT NEGATIVE CIRCLED DIG
  IT ONEzDIGIT TWOzDIGIT THREEzDIGIT FOURzDIGIT FIVEzDIGIT SIXzDIGIT SEVENzDIGIT EIGHTzDIGIT NINEzNU
  MBER TENiCIRCLED SANS-SERIF DIGIT ONEzF DIGIT TWOzF DIGIT THREEzF DIGIT FOURzF DIGIT FIVEzF DIGIT 
  SIXzF DIGIT SEVENzF DIGIT EIGHTzF DIGIT NINEzF NUMBER TENiNEGATIVE CIRCLED SANS-SERIF DIGIT ONEzSA
  NS-SERIF DIGIT TWOzSANS-SERIF DIGIT THREEzSANS-SERIF DIGIT FOURzSANS-SERIF DIGIT FIVEzSANS-SERIF D
  IGIT SIXzSANS-SERIF DIGIT SEVENzSANS-SERIF DIGIT EIGHTzSANS-SERIF DIGIT NINEzSANS-SERIF NUMBER TEN
  aHEAVY WIDE-HEADED RIGHTWARDS ARROWgPLUS SIGNgMINUS SIGNgDIVISION SIGNgSOUTH EAST ARROWgRIGHTWARDS
   ARROWgNORTH EAST ARROWaDRAFTING POINT RIGHTWARDS ARROWaHEAVY ROUND-TIPPED RIGHTWARDS ARROWaTRIANG
  LE-HEADED RIGHTWARDS ARROWaHEAVY TRIANGLE-HEADED RIGHTWARDS ARROWaDASHED TRIANGLE-HEADED RIGHTWARD
  S ARROWaHEAVY DASHED TRIANGLE-HEADED RIGHTWARDS ARROWaBLACK RIGHTWARDS ARROWaTHREE-D TOP-LIGHTED R
  IGHTWARDS ARROWHEADiBOTTOM-LIGHTED RIGHTWARDS ARROWHEADaBLACK RIGHTWARDS ARROWHEADaHEAVY BLACK CUR
  VED DOWNWARDS AND RIGHTWARDS ARROWtUPWARDS AND RIGHTWARDS ARROWaSQUAT BLACK RIGHTWARDS ARROWaHEAVY
   CONCAVE-POINTED BLACK RIGHTWARDS ARROWaRIGHT-SHADED WHITE RIGHTWARDS ARROWaLEFT-SHADED WHITE RIGH
  TWARDS ARROWaBACK-TILTED SHADOWED WHITE RIGHTWARDS ARROWaFRONT-TILTED SHADOWED WHITE RIGHTWARDS AR
  ROWaHEAVY LOWER RIGHT-SHADOWED WHITE RIGHTWARDS ARROWgUPPER RIGHT-SHADOWED WHITE RIGHTWARDS ARROWa
  NOTCHED LOWER RIGHT-SHADOWED WHITE RIGHTWARDS ARROWaCURLY LOOPaNOTCHED UPPER RIGHT-SHADOWED WHITE 
  RIGHTWARDS ARROWaCIRCLED HEAVY WHITE RIGHTWARDS ARROWaWHITE-FEATHERED RIGHTWARDS ARROWaBLACK-FEATH
  ERED SOUTH EAST ARROWqRIGHTWARDS ARROWqNORTH EAST ARROWaHEAVY BLACK-FEATHERED SOUTH EAST ARROWwRIG
  HTWARDS ARROWwNORTH EAST ARROWaTEARDROP-BARBED RIGHTWARDS ARROWaHEAVY TEARDROP-SHANKED RIGHTWARDS 
  ARROWaWEDGE-TAILED RIGHTWARDS ARROWaHEAVY WEDGE-TAILED RIGHTWARDS ARROWaOPEN-OUTLINED RIGHTWARDS A
  RROWaDOUBLE CURLY LOOPaTHREE DIMENSIONAL ANGLEaWHITE TRIANGLE CONTAINING SMALL WHITE TRIANGLEaPERP
  ENDICULARaOPEN SUBSEThPERSETaLEFT S-SHAPED BAG DELIMITERaRIGHT S-SHAPED BAG DELIMITERaOR WITH DOT 
  INSIDEaREVERSE SOLIDUS PRECEDING SUBSETaSUPERSET PRECEDING SOLIDUSaVERTICAL BAR WITH HORIZONTAL ST
  ROKEaMATHEMATICAL RISING DIAGONALaLONG DIVISIONaMATHEMATICAL FALLING DIAGONALaSQUARED LOGICAL ANDq
  ORaWHITE DIAMOND WITH CENTRED DOTaAND WITH DOTaELEMENT OF OPENING UPWARDSaLOWER RIGHT CORNER WITH 
  DOTaUPPER LEFT CORNER WITH DOTaLEFT OUTER JOINaRIGHT OUTER JOINaFULL OUTER JOINaLARGE UP TACKgDOWN
   TACKbEFT AND RIGHT DOUBLE TURNSTILEpTACKfMULTIMAPbONG RIGHT TACKfLEFT TACKaUP TACK WITH CIRCLE AB
  OVEaLOZENGE DIVIDED BY HORIZONTAL RULEaWHITE CONCAVE-SIDED DIAMONDzND WITH LEFTWARDS TICKzND WITH 
  RIGHTWARDS TICKgSQUARE WITH LEFTWARDS TICKsRIGHTWARDS TICKaMATHEMATICAL LEFT WHITE SQUARE BRACKETn
  RIGHT WHITE SQUARE BRACKETnLEFT ANGLE BRACKETnRIGHT ANGLE BRACKETnLEFT DOUBLE ANGLE BRACKETnRIGHT 
  DOUBLE ANGLE BRACKETnLEFT WHITE TORTOISE SHELL BRACKETnRIGHT WHITE TORTOISE SHELL BRACKETnLEFT FLA
  TTENED PARENTHESISnRIGHT FLATTENED PARENTHESISaUPWARDS QUADRUPLE ARROWaDOWNWARDS QUADRUPLE ARROWaA
  NTICLOCKWISE GAPPED CIRCLE ARROWaCLOCKWISE GAPPED CIRCLE ARROWaRIGHT ARROW WITH CIRCLED PLUSaLONG 
  LEFTWARDS ARROWfRIGHTWARDS ARROWfLEFT RIGHT ARROWjWARDS DOUBLE ARROWfRIGHTWARDS DOUBLE ARROWfLEFT 
  RIGHT DOUBLE ARROWjWARDS ARROW FROM BARfRIGHTWARDS ARROW FROM BARfLEFTWARDS DOUBLE ARROW FROM BARf
  RIGHTWARDS DOUBLE ARROW FROM BARqSQUIGGLE ARROWaBRAILLE PATTERN BLANKqDOTS-1v2v12v3v13v23v123v4v14
  v24v124v34v134v234v1234v5v15v25v125v35v135v235v1235v45v145v245v1245v345v1345v2345v12345v6v16v26v12
  6v36v136v236v1236v46v146v246v1246v346v1346v2346v12346v56v156v256v1256v356v1356v2356v12356v456v1456
  v2456v12456v3456v13456v23456v123456v7v17v27v127v37v137v237v1237v47v147v247v1247v347v1347v2347v1234
  7v57v157v257v1257v357v1357v2357v12357v457v1457v2457v12457v3457v13457v23457v123457v67v167v267v1267v
  367v1367v2367v12367v467v1467v2467v12467v3467v13467v23467v123467v567v1567v2567v12567v3567v13567v235
  67v123567v4567v14567v24567v124567v34567v134567v234567v1234567v8v18v28v128v38v138v238v1238v48v148v2
  48v1248v348v1348v2348v12348v58v158v258v1258v358v1358v2358v12358v458v1458v2458v12458v3458v13458v234
  58v123458v68v168v268v1268v368v1368v2368v12368v468v1468v2468v12468v3468v13468v23468v123468v568v1568
  v2568v12568v3568v13568v23568v123568v4568v14568v24568v124568v34568v134568v234568v1234568v78v178v278
  v1278v378v1378v2378v12378v478v1478v2478v12478v3478v13478v23478v123478v578v1578v2578v12578v3578v135
  78v23578v123578v4578v14578v24578v124578v34578v134578v234578v1234578v678v1678v2678v12678v3678v13678
  v23678v123678v4678v14678v24678v124678v34678v134678v234678v1234678v5678v15678v25678v125678v35678v13
  5678v235678v1235678v45678v145678v245678v1245678v345678v1345678v2345678v12345678aRIGHTWARDS TWO-HEA
  DED ARROW WITH VERTICAL STROKEzOW WITH DOUBLE VERTICAL STROKEaLEFTWARDS DOUBLE ARROW WITH VERTICAL
   STROKEaRIGHTWARDS DOUBLE ARROW WITH VERTICAL STROKEaLEFT RIGHT DOUBLE ARROW WITH VERTICAL STROKEa
  RIGHTWARDS TWO-HEADED ARROW FROM BARaLEFTWARDS DOUBLE ARROW FROM BARaRIGHTWARDS DOUBLE ARROW FROM 
  BARaDOWNWARDS ARROW WITH HORIZONTAL STROKEaUPWARDS ARROW WITH HORIZONTAL STROKEiTRIPLE ARROWaDOWNW
  ARDS TRIPLE ARROWaLEFTWARDS DOUBLE DASH ARROWaRIGHTWARDS DOUBLE DASH ARROWaLEFTWARDS TRIPLE DASH A
  RROWaRIGHTWARDS TRIPLE DASH ARROWmWO-HEADED TRIPLE DASH ARROWlARROW WITH DOTTED STEMaUPWARDS ARROW
   TO BARaDOWNWARDS ARROW TO BARaRIGHTWARDS ARROW WITH TAIL WITH VERTICAL STROKEzL WITH DOUBLE VERTI
  CAL STROKElTWO-HEADED ARROW WITH TAILzOW WITH TAIL WITH VERTICAL STROKEzOW WITH TAIL WITH DOUBLE V
  ERTICAL STROKEaLEFTWARDS ARROW-TAILaRIGHTWARDS ARROW-TAILaLEFTWARDS DOUBLE ARROW-TAILaRIGHTWARDS D
  OUBLE ARROW-TAILaLEFTWARDS ARROW TO BLACK DIAMONDaRIGHTWARDS ARROW TO BLACK DIAMONDaLEFTWARDS ARRO
  W FROM BAR TO BLACK DIAMONDaRIGHTWARDS ARROW FROM BAR TO BLACK DIAMONDaNORTH WEST AND SOUTH EAST A
  RROWgEAST AND SOUTH WEST ARROWgWEST ARROW WITH HOOKgEAST ARROW WITH HOOKaSOUTH EAST ARROW WITH HOO
  KgWEST ARROW WITH HOOKaNORTH WEST ARROW AND NORTH EAST ARROWgEAST ARROW AND SOUTH EAST ARROWaSOUTH
   EAST ARROW AND SOUTH WEST ARROWgWEST ARROW AND NORTH WEST ARROWaRISING DIAGONAL CROSSING FALLING 
  DIAGONALaFALLING DIAGONAL CROSSING RISING DIAGONALaSOUTH EAST ARROW CROSSING NORTH EAST ARROWaNORT
  H EAST ARROW CROSSING SOUTH EAST ARROWaFALLING DIAGONAL CROSSING NORTH EAST ARROWaRISING DIAGONAL 
  CROSSING SOUTH EAST ARROWaNORTH EAST ARROW CROSSING NORTH WEST ARROWgWEST ARROW CROSSING NORTH EAS
  T ARROWaWAVE ARROW POINTING DIRECTLY RIGHTaARROW POINTING RIGHTWARDS THEN CURVING UPWARDSz THEN CU
  RVING DOWNWARDSpDOWNWARDS THEN CURVING LEFTWARDSzTHEN CURVING RIGHTWARDSaRIGHT-SIDE ARC CLOCKWISE 
  ARROWaLEFT-SIDE ARC ANTICLOCKWISE ARROWaTOP ARC ANTICLOCKWISE ARROWaBOTTOM ARC ANTICLOCKWISE ARROW
  aTOP ARC CLOCKWISE ARROW WITH MINUSiANTICLOCKWISE ARROW WITH PLUSaLOWER RIGHT SEMICIRCULAR CLOCKWI
  SE ARROWgLEFT SEMICIRCULAR ANTICLOCKWISE ARROWaANTICLOCKWISE CLOSED CIRCLE ARROWaCLOCKWISE CLOSED 
  CIRCLE ARROWaRIGHTWARDS ARROW ABOVE SHORT LEFTWARDS ARROWaLEFTWARDS ARROW ABOVE SHORT RIGHTWARDS A
  RROWaSHORT RIGHTWARDS ARROW ABOVE LEFTWARDS ARROWaRIGHTWARDS ARROW WITH PLUS BELOWaLEFTWARDS ARROW
   WITH PLUS BELOWaRIGHTWARDS ARROW THROUGH XaLEFT RIGHT ARROW THROUGH SMALL CIRCLEaUPWARDS TWO-HEAD
  ED ARROW FROM SMALL CIRCLEaLEFT BARB UP RIGHT BARB DOWN HARPOONkDOWN RIGHT BARB UP HARPOONaUP BARB
   RIGHT DOWN BARB LEFT HARPOONiLEFT DOWN BARB RIGHT HARPOONaLEFT BARB UP RIGHT BARB UP HARPOONaUP B
  ARB RIGHT DOWN BARB RIGHT HARPOONaLEFT BARB DOWN RIGHT BARB DOWN HARPOONaUP BARB LEFT DOWN BARB LE
  FT HARPOONaLEFTWARDS HARPOON WITH BARB UP TO BARaRIGHTWARDS HARPOON WITH BARB UP TO BARaUPWARDS HA
  RPOON WITH BARB RIGHT TO BARaDOWNWARDS HARPOON WITH BARB RIGHT TO BARaLEFTWARDS HARPOON WITH BARB 
  DOWN TO BARaRIGHTWARDS HARPOON WITH BARB DOWN TO BARaUPWARDS HARPOON WITH BARB LEFT TO BARaDOWNWAR
  DS HARPOON WITH BARB LEFT TO BARaLEFTWARDS HARPOON WITH BARB UP FROM BARaRIGHTWARDS HARPOON WITH B
  ARB UP FROM BARaUPWARDS HARPOON WITH BARB RIGHT FROM BARaDOWNWARDS HARPOON WITH BARB RIGHT FROM BA
  RaLEFTWARDS HARPOON WITH BARB DOWN FROM BARaRIGHTWARDS HARPOON WITH BARB DOWN FROM BARaUPWARDS HAR
  POON WITH BARB LEFT FROM BARaDOWNWARDS HARPOON WITH BARB LEFT FROM BARaLEFTWARDS HARPOON WITH BARB
   UP ABOVE LEFTWARDS HARPOON WITH BARB DOWNaUPWARDS HARPOON WITH BARB LEFT BESIDE UPWARDS HARPOON W
  ITH BARB RIGHTaRIGHTWARDS HARPOON WITH BARB UP ABOVE RIGHTWARDS HARPOON WITH BARB DOWNaDOWNWARDS H
  ARPOON WITH BARB LEFT BESIDE DOWNWARDS HARPOON WITH BARB RIGHTaLEFTWARDS HARPOON WITH BARB UP ABOV
  E RIGHTWARDS HARPOON WITH BARB UPzRB DOWN ABOVE RIGHTWARDS HARPOON WITH BARB DOWNaRIGHTWARDS HARPO
  ON WITH BARB UP ABOVE LEFTWARDS HARPOON WITH BARB UPzARB DOWN ABOVE LEFTWARDS HARPOON WITH BARB DO
  WNaLEFTWARDS HARPOON WITH BARB UP ABOVE LONG DASHzRB DOWN BELOW LONG DASHaRIGHTWARDS HARPOON WITH 
  BARB UP ABOVE LONG DASHzARB DOWN BELOW LONG DASHaUPWARDS HARPOON WITH BARB LEFT BESIDE DOWNWARDS H
  ARPOON WITH BARB RIGHTaDOWNWARDS HARPOON WITH BARB LEFT BESIDE UPWARDS HARPOON WITH BARB RIGHTaRIG
  HT DOUBLE ARROW WITH ROUNDED HEADaEQUALS SIGN ABOVE RIGHTWARDS ARROWaTILDE OPERATOR ABOVE RIGHTWAR
  DS ARROWaLEFTWARDS ARROW ABOVE TILDE OPERATORaRIGHTWARDS ARROW ABOVE TILDE OPERATORxALMOST EQUAL T
  OaLESS-THAN ABOVE LEFTWARDS ARROWcFTWARDS ARROW THROUGH LESS-THANaGREATER-THAN ABOVE RIGHTWARDS AR
  ROWaSUBSET ABOVE RIGHTWARDS ARROWaLEFTWARDS ARROW THROUGH SUBSETaSUPERSET ABOVE LEFTWARDS ARROWaLE
  FT FISH TAILaRIGHT FISH TAILaUP FISH TAILaDOWN FISH TAILaTRIPLE VERTICAL BAR DELIMITERaZ NOTATION 
  SPOTlTYPE COLONaLEFT WHITE CURLY BRACKETaRIGHT WHITE CURLY BRACKETaLEFT WHITE PARENTHESISaRIGHT WH
  ITE PARENTHESISaZ NOTATION LEFT IMAGE BRACKETlRIGHT IMAGE BRACKETlLEFT BINDING BRACKETlRIGHT BINDI
  NG BRACKETaLEFT SQUARE BRACKET WITH UNDERBARaRIGHT SQUARE BRACKET WITH UNDERBARaLEFT SQUARE BRACKE
  T WITH TICK IN TOP CORNERaRIGHT SQUARE BRACKET WITH TICK IN BOTTOM CORNERaLEFT SQUARE BRACKET WITH
   TICK IN BOTTOM CORNERaRIGHT SQUARE BRACKET WITH TICK IN TOP CORNERaLEFT ANGLE BRACKET WITH DOTaRI
  GHT ANGLE BRACKET WITH DOTaLEFT ARC LESS-THAN BRACKETaRIGHT ARC GREATER-THAN BRACKETaDOUBLE LEFT A
  RC GREATER-THAN BRACKEThRIGHT ARC LESS-THAN BRACKETaLEFT BLACK TORTOISE SHELL BRACKETaRIGHT BLACK 
  TORTOISE SHELL BRACKETaDOTTED FENCEaVERTICAL ZIGZAG LINEaMEASURED ANGLE OPENING LEFTaRIGHT ANGLE V
  ARIANT WITH SQUAREaMEASURED RIGHT ANGLE WITH DOTaANGLE WITH S INSIDEbCUTE ANGLEaSPHERICAL ANGLE OP
  ENING LEFTyUPaTURNED ANGLEaREVERSED ANGLEaANGLE WITH UNDERBARaREVERSED ANGLE WITH UNDERBARaOBLIQUE
   ANGLE OPENING UPwDOWNaMEASURED ANGLE WITH OPEN ARM ENDING IN ARROW POINTING UP AND RIGHTzARM ENDI
  NG IN ARROW POINTING UP AND LEFTzARM ENDING IN ARROW POINTING DOWN AND RIGHTzARM ENDING IN ARROW P
  OINTING DOWN AND LEFTzARM ENDING IN ARROW POINTING RIGHT AND UPzARM ENDING IN ARROW POINTING LEFT 
  AND UPzARM ENDING IN ARROW POINTING RIGHT AND DOWNzARM ENDING IN ARROW POINTING LEFT AND DOWNaREVE
  RSED EMPTY SETaEMPTY SET WITH OVERBARpSMALL CIRCLE ABOVEpRIGHT ARROW ABOVEpLEFT ARROW ABOVEaCIRCLE
   WITH HORIZONTAL BARgD VERTICAL BARiPARALLELiREVERSE SOLIDUSiPERPENDICULARg DIVIDED BY HORIZONTAL 
  BAR AND TOP HALF DIVIDED BY VERTICAL BARhWITH SUPERIMPOSED XgD ANTICLOCKWISE-ROTATED DIVISION SIGN
  aUP ARROW THROUGH CIRCLEaCIRCLED WHITE BULLETiBULLETiLESS-THANiGREATER-THANg WITH SMALL CIRCLE TO 
  THE RIGHTmTWO HORIZONTAL STROKES TO THE RIGHTaSQUARED RISING DIAGONAL SLASHiFALLING DIAGONAL SLASH
  iASTERISKiSMALL CIRCLEjQUAREaTWO JOINED SQUARESbRIANGLE WITH DOT ABOVEoUNDERBARaS IN TRIANGLEaTRIA
  NGLE WITH SERIFS AT BOTTOMaRIGHT TRIANGLE ABOVE LEFT TRIANGLEaLEFT TRIANGLE BESIDE VERTICAL BARaVE
  RTICAL BAR BESIDE RIGHT TRIANGLEaBOWTIE WITH LEFT HALF BLACKmRIGHT HALF BLACKbLACK BOWTIEaTIMES WI
  TH LEFT HALF BLACKlRIGHT HALF BLACKaWHITE HOURGLASSaBLACK HOURGLASSaLEFT WIGGLY FENCEaRIGHT WIGGLY
   FENCEaLEFT DOUBLE WIGGLY FENCEaRIGHT DOUBLE WIGGLY FENCEaINCOMPLETE INFINITYaTIE OVER INFINITYaIN
  FINITY NEGATED WITH VERTICAL BARaDOUBLE-ENDED MULTIMAPaSQUARE WITH CONTOURED OUTLINEaINCREASES ASa
  SHUFFLE PRODUCTaEQUALS SIGN AND SLANTED PARALLELzARALLEL WITH TILDE ABOVEaIDENTICAL TO AND SLANTED
   PARALLELaGLEICH STARKaTHERMODYNAMICaDOWN-POINTING TRIANGLE WITH LEFT HALF BLACKzTH RIGHT HALF BLA
  CKaBLACK DIAMOND WITH DOWN ARROWgLOZENGEaWHITE CIRCLE WITH DOWN ARROWaBLACK CIRCLE WITH DOWN ARROW
  aERROR-BARRED WHITE SQUAREnBLACK SQUAREnWHITE DIAMONDnBLACK DIAMONDnWHITE CIRCLEnBLACK CIRCLEaRULE
  -DELAYEDbEVERSE SOLIDUS OPERATORaSOLIDUS WITH OVERBARaREVERSE SOLIDUS WITH HORIZONTAL STROKEaBIG S
  OLIDUSeREVERSE SOLIDUSaDOUBLE PLUSaTRIPLE PLUSaLEFT-POINTING CURVED ANGLE BRACKETaRIGHT-POINTING C
  URVED ANGLE BRACKETaTINYaMINYaN-ARY CIRCLED DOT OPERATORoPLUS OPERATORoTIMES OPERATORgUNION OPERAT
  OR WITH DOTz PLUSgSQUARE INTERSECTION OPERATORnUNION OPERATORaTWO LOGICAL AND OPERATORmOR OPERATOR
  aN-ARY TIMES OPERATORaMODULO TWO SUMaSUMMATION WITH INTEGRALaQUADRUPLE INTEGRAL OPERATORaFINITE PA
  RT INTEGRALaINTEGRAL WITH DOUBLE STROKEjAVERAGE WITH SLASHaCIRCULATION FUNCTIONaANTICLOCKWISE INTE
  GRATIONaLINE INTEGRATION WITH RECTANGULAR PATH AROUND POLEwSEMICIRCULAR PATH AROUND POLErNOT INCLU
  DING THE POLEaINTEGRAL AROUND A POINT OPERATORaQUATERNION INTEGRAL OPERATORaINTEGRAL WITH LEFTWARD
  S ARROW WITH HOOKoTIMES SIGNoINTERSECTIONoUNIONoOVERBARoUNDERBARaJOINaLARGE LEFT TRIANGLE OPERATOR
  aZ NOTATION SCHEMA COMPOSITIONsPIPINGtROJECTIONaPLUS SIGN WITH SMALL CIRCLE ABOVEpCIRCUMFLEX ACCEN
  T ABOVEpTILDE ABOVEpDOT BELOWpTILDE BELOWpSUBSCRIPT TWOpBLACK TRIANGLEaMINUS SIGN WITH COMMA ABOVE
  qDOT BELOWqFALLING DOTSqRISING DOTSaPLUS SIGN IN LEFT HALF CIRCLEnRIGHT HALF CIRCLEaVECTOR OR CROS
  S PRODUCTaMULTIPLICATION SIGN WITH DOT ABOVEzUNDERBARaSEMIDIRECT PRODUCT WITH BOTTOM CLOSEDbMASH P
  RODUCTaMULTIPLICATION SIGN IN LEFT HALF CIRCLExRIGHT HALF CIRCLEaCIRCLED MULTIPLICATION SIGN WITH 
  CIRCUMFLEX ACCENTaMULTIPLICATION SIGN IN DOUBLE CIRCLEaCIRCLED DIVISION SIGNaPLUS SIGN IN TRIANGLE
  aMINUS SIGN IN TRIANGLEbULTIPLICATION SIGN IN TRIANGLEaINTERIOR PRODUCTaRIGHTHAND INTERIOR PRODUCT
  aZ NOTATION RELATIONAL COMPOSITIONaAMALGAMATION OR COPRODUCTaINTERSECTION WITH DOTaUNION WITH MINU
  S SIGNlOVERBARaINTERSECTION WITH OVERBARsLOGICAL ANDaUNION WITH LOGICAL ORgABOVE INTERSECTIONaINTE
  RSECTION ABOVE UNIONaUNION ABOVE BAR ABOVE INTERSECTIONaINTERSECTION ABOVE BAR ABOVE UNIONaUNION B
  ESIDE AND JOINED WITH UNIONaINTERSECTION BESIDE AND JOINED WITH INTERSECTIONaCLOSED UNION WITH SER
  IFShINTERSECTION WITH SERIFSaDOUBLE SQUARE INTERSECTIONoUNIONaCLOSED UNION WITH SERIFS AND SMASH P
  RODUCTaLOGICAL AND WITH DOT ABOVEiOR WITH DOT ABOVEaDOUBLE LOGICAL ANDpORaTWO INTERSECTING LOGICAL
   ANDzORaSLOPING LARGE ORoANDaLOGICAL OR OVERLAPPING LOGICAL ANDiAND WITH MIDDLE STEMiOR WITH MIDDL
  E STEMiAND WITH HORIZONTAL DASHiOR WITH HORIZONTAL DASHiAND WITH DOUBLE OVERBARrUNDERBARrDOUBLE UN
  DERBARaSMALL VEE WITH UNDERBARaLOGICAL OR WITH DOUBLE OVERBARxUNDERBARaZ NOTATION DOMAIN ANTIRESTR
  ICTIONlRANGE ANTIRESTRICTIONaEQUALS SIGN WITH DOT BELOWaIDENTICAL WITH DOT ABOVEaTRIPLE HORIZONTAL
   BAR WITH DOUBLE VERTICAL STROKEzH TRIPLE VERTICAL STROKEbILDE OPERATOR WITH DOT ABOVEuRISING DOTS
  aSIMILAR MINUS SIMILARaCONGRUENT WITH DOT ABOVEaEQUALS WITH ASTERISKaALMOST EQUAL TO WITH CIRCUMFL
  EX ACCENTbPPROXIMATELY EQUAL OR EQUAL TOaEQUALS SIGN ABOVE PLUS SIGNaPLUS SIGN ABOVE EQUALS SIGNaE
  QUALS SIGN ABOVE TILDE OPERATORaDOUBLE COLON EQUALaTWO CONSECUTIVE EQUALS SIGNSbHREE CONSECUTIVE E
  QUALS SIGNSaEQUALS SIGN WITH TWO DOTS ABOVE AND TWO DOTS BELOWdIVALENT WITH FOUR DOTS ABOVEaLESS-T
  HAN WITH CIRCLE INSIDEaGREATER-THAN WITH CIRCLE INSIDEaLESS-THAN WITH QUESTION MARK ABOVEaGREATER-
  THAN WITH QUESTION MARK ABOVEaLESS-THAN OR SLANTED EQUAL TOaGREATER-THAN OR SLANTED EQUAL TOaLESS-
  THAN OR SLANTED EQUAL TO WITH DOT INSIDEaGREATER-THAN OR SLANTED EQUAL TO WITH DOT INSIDEaLESS-THA
  N OR SLANTED EQUAL TO WITH DOT ABOVEaGREATER-THAN OR SLANTED EQUAL TO WITH DOT ABOVEaLESS-THAN OR 
  SLANTED EQUAL TO WITH DOT ABOVE RIGHTaGREATER-THAN OR SLANTED EQUAL TO WITH DOT ABOVE LEFTaLESS-TH
  AN OR APPROXIMATEaGREATER-THAN OR APPROXIMATEaLESS-THAN AND SINGLE-LINE NOT EQUAL TOaGREATER-THAN 
  AND SINGLE-LINE NOT EQUAL TOaLESS-THAN AND NOT APPROXIMATEaGREATER-THAN AND NOT APPROXIMATEaLESS-T
  HAN ABOVE DOUBLE-LINE EQUAL ABOVE GREATER-THANaGREATER-THAN ABOVE DOUBLE-LINE EQUAL ABOVE LESS-THA
  NaLESS-THAN ABOVE SIMILAR OR EQUALaGREATER-THAN ABOVE SIMILAR OR EQUALaLESS-THAN ABOVE SIMILAR ABO
  VE GREATER-THANaGREATER-THAN ABOVE SIMILAR ABOVE LESS-THANaLESS-THAN ABOVE GREATER-THAN ABOVE DOUB
  LE-LINE EQUALaGREATER-THAN ABOVE LESS-THAN ABOVE DOUBLE-LINE EQUALaLESS-THAN ABOVE SLANTED EQUAL A
  BOVE GREATER-THAN ABOVE SLANTED EQUALaGREATER-THAN ABOVE SLANTED EQUAL ABOVE LESS-THAN ABOVE SLANT
  ED EQUALaSLANTED EQUAL TO OR LESS-THANuGREATER-THANuLESS-THAN WITH DOT INSIDEuGREATER-THAN WITH DO
  T INSIDEaDOUBLE-LINE EQUAL TO OR LESS-THANyGREATER-THANmSLANTED EQUAL TO OR LESS-THANz TO OR GREAT
  ER-THANaSIMILAR OR LESS-THANlGREATER-THANiABOVE LESS-THAN ABOVE EQUALS SIGNoGREATER-THAN ABOVE EQU
  ALS SIGNaDOUBLE NESTED LESS-THANoGREATER-THANoLESS-THAN WITH UNDERBARaGREATER-THAN OVERLAPPING LES
  S-THANnBESIDE LESS-THANaLESS-THAN CLOSED BY CURVEaGREATER-THAN CLOSED BY CURVEaLESS-THAN CLOSED BY
   CURVE ABOVE SLANTED EQUALaGREATER-THAN CLOSED BY CURVE ABOVE SLANTED EQUALaSMALLER THANaLARGER TH
  ANaSMALLER THAN OR EQUAL TOaLARGER THAN OR EQUAL TOaEQUALS SIGN WITH BUMPY ABOVEaPRECEDES ABOVE SI
  NGLE-LINE EQUALS SIGNaSUCCEEDS ABOVE SINGLE-LINE EQUALS SIGNaPRECEDES ABOVE SINGLE-LINE NOT EQUAL 
  TOaSUCCEEDS ABOVE SINGLE-LINE NOT EQUAL TOaPRECEDES ABOVE EQUALS SIGNaSUCCEEDS ABOVE EQUALS SIGNaP
  RECEDES ABOVE NOT EQUAL TOaSUCCEEDS ABOVE NOT EQUAL TOaPRECEDES ABOVE ALMOST EQUAL TOaSUCCEEDS ABO
  VE ALMOST EQUAL TOaPRECEDES ABOVE NOT ALMOST EQUAL TOaSUCCEEDS ABOVE NOT ALMOST EQUAL TOaDOUBLE PR
  ECEDEShSUCCEEDSaSUBSET WITH DOTcPERSET WITH DOTcBSET WITH PLUS SIGN BELOWcPERSET WITH PLUS SIGN BE
  LOWcBSET WITH MULTIPLICATION SIGN BELOWcPERSET WITH MULTIPLICATION SIGN BELOWcBSET OF OR EQUAL TO 
  WITH DOT ABOVEcPERSET OF OR EQUAL TO WITH DOT ABOVEcBSET OF ABOVE EQUALS SIGNcPERSET OF ABOVE EQUA
  LS SIGNcBSET OF ABOVE TILDE OPERATORcPERSET OF ABOVE TILDE OPERATORcBSET OF ABOVE ALMOST EQUAL TOc
  PERSET OF ABOVE ALMOST EQUAL TOcBSET OF ABOVE NOT EQUAL TOcPERSET OF ABOVE NOT EQUAL TObQUARE LEFT
   OPEN BOX OPERATORhRIGHT OPEN BOX OPERATORaCLOSED SUBSETjPERSETjBSET OR EQUAL TOjPERSET OR EQUAL T
  OaSUBSET ABOVE SUPERSETcPERSET ABOVE SUBSETcBSET ABOVE SUBSETcPERSET ABOVE SUPERSETjBESIDE SUBSETq
  AND JOINED BY DASH WITH SUBSETaELEMENT OF OPENING DOWNWARDSaPITCHFORK WITH TEE TOPaTRANSVERSAL INT
  ERSECTIONaFORKINGaNONFORKINGaSHORT LEFT TACKgDOWN TACKgUP TACKaPERPENDICULAR WITH SaVERTICAL BAR T
  RIPLE RIGHT TURNSTILEaDOUBLE VERTICAL BAR LEFT TURNSTILEaVERTICAL BAR DOUBLE LEFT TURNSTILEaDOUBLE
   VERTICAL BAR DOUBLE LEFT TURNSTILEaLONG DASH FROM LEFT MEMBER OF DOUBLE VERTICALaSHORT DOWN TACK 
  WITH OVERBARgUP TACK WITH UNDERBARoABOVE SHORT DOWN TACKaDOUBLE DOWN TACKhUP TACKhSTROKE NOT SIGNa
  REVERSED DOUBLE STROKE NOT SIGNaDOES NOT DIVIDE WITH REVERSED NEGATION SLASHaVERTICAL LINE WITH CI
  RCLE ABOVEz BELOWaDOWN TACK WITH CIRCLE BELOWaPARALLEL WITH HORIZONTAL STROKEoTILDE OPERATORaTRIPL
  E VERTICAL BAR BINARY RELATIONuWITH HORIZONTAL STROKEhCOLON OPERATORhNESTED LESS-THANoGREATER-THAN
  aDOUBLE-LINE SLANTED LESS-THAN OR EQUAL TOuGREATER-THAN OR EQUAL TOaTRIPLE SOLIDUS BINARY RELATION
  aLARGE TRIPLE VERTICAL BAR OPERATORaDOUBLE SOLIDUS OPERATORaWHITE VERTICAL BARaN-ARY WHITE VERTICA
  L BARbORTH EAST WHITE ARROWgWEST WHITE ARROWaSOUTH EAST WHITE ARROWgWEST WHITE ARROWaLEFT RIGHT WH
  ITE ARROWeWARDS BLACK ARROWaUPWARDS BLACK ARROWaDOWNWARDS BLACK ARROWaNORTH EAST BLACK ARROWgWEST 
  BLACK ARROWaSOUTH EAST BLACK ARROWgWEST BLACK ARROWaLEFT RIGHT BLACK ARROWaUP DOWN BLACK ARROWaRIG
  HTWARDS ARROW WITH TIP DOWNWARDSz UPWARDSaLEFTWARDS ARROW WITH TIP DOWNWARDSzUPWARDSaSQUARE WITH T
  OP HALF BLACKmBOTTOM HALF BLACKmUPPER RIGHT DIAGONAL HALF BLACKmLOWER LEFT DIAGONAL HALF BLACKaDIA
  MOND WITH LEFT HALF BLACKnRIGHT HALF BLACKnTOP HALF BLACKnBOTTOM HALF BLACKbOTTED SQUAREaBLACK LAR
  GE SQUAREaWHITE LARGE SQUAREaBLACK VERY SMALL SQUAREaWHITE VERY SMALL SQUAREaBLACK PENTAGONaWHITE 
  PENTAGONgHEXAGONaBLACK HEXAGONaHORIZONTAL BLACK HEXAGONaBLACK LARGE CIRCLEgMEDIUM DIAMONDaWHITE ME
  DIUM DIAMONDaBLACK MEDIUM LOZENGEaWHITE MEDIUM LOZENGEaBLACK SMALL DIAMONDmLOZENGEaWHITE SMALL LOZ
  ENGEaBLACK HORIZONTAL ELLIPSEaWHITE HORIZONTAL ELLIPSEaBLACK VERTICAL ELLIPSEaWHITE VERTICAL ELLIP
  SEaLEFT ARROW WITH SMALL CIRCLEaTHREE LEFTWARDS ARROWSaLEFT ARROW WITH CIRCLED PLUSbONG LEFTWARDS 
  SQUIGGLE ARROWbEFTWARDS TWO-HEADED ARROW WITH VERTICAL STROKEzW WITH DOUBLE VERTICAL STROKEzW FROM
   BARvTRIPLE DASH ARROWkARROW WITH DOTTED STEMvTAIL WITH VERTICAL STROKEz WITH DOUBLE VERTICAL STRO
  KEkTWO-HEADED ARROW WITH TAILzW WITH TAIL WITH VERTICAL STROKEzW WITH TAIL WITH DOUBLE VERTICAL ST
  ROKEkARROW THROUGH XaWAVE ARROW POINTING DIRECTLY LEFTaEQUALS SIGN ABOVE LEFTWARDS ARROWaREVERSE T
  ILDE OPERATOR ABOVE LEFTWARDS ARROWaLEFTWARDS ARROW ABOVE REVERSE ALMOST EQUAL TOaRIGHTWARDS ARROW
   THROUGH GREATER-THANzSUPERSETaLEFTWARDS QUADRUPLE ARROWaRIGHTWARDS QUADRUPLE ARROWbEVERSE TILDE O
  PERATOR ABOVE RIGHTWARDS ARROWbIGHTWARDS ARROW ABOVE REVERSE ALMOST EQUAL TOaTILDE OPERATOR ABOVE 
  LEFTWARDS ARROWaLEFTWARDS ARROW ABOVE ALMOST EQUAL TOwREVERSE TILDE OPERATORaRIGHTWARDS ARROW ABOV
  E REVERSE TILDE OPERATORaDOWNWARDS TRIANGLE-HEADED ZIGZAG ARROWaSHORT SLANTED NORTH ARROWgBACKSLAN
  TED SOUTH ARROWaWHITE MEDIUM STARaBLACK SMALL STARaWHITE SMALL STARaBLACK RIGHT-POINTING PENTAGONa
  WHITE RIGHT-POINTING PENTAGONaHEAVY LARGE CIRCLEgOVAL WITH OVAL INSIDEgCIRCLE WITH CIRCLE INSIDEmm
  D SALTIREaSLANTED NORTH ARROW WITH HOOKED HEADaBACKSLANTED SOUTH ARROW WITH HOOKED TAILaSLANTED NO
  RTH ARROW WITH HORIZONTAL TAILaBACKSLANTED SOUTH ARROW WITH HORIZONTAL TAILbENT ARROW POINTING DOW
  NWARDS THEN NORTH EASTaSHORT BENT ARROW POINTING DOWNWARDS THEN NORTH EASTaLEFTWARDS TRIANGLE-HEAD
  ED ARROWaUPWARDS TRIANGLE-HEADED ARROWaRIGHTWARDS TRIANGLE-HEADED ARROWaDOWNWARDS TRIANGLE-HEADED 
  ARROWaLEFT RIGHT TRIANGLE-HEADED ARROWaUP DOWN TRIANGLE-HEADED ARROWaNORTH WEST TRIANGLE-HEADED AR
  ROWgEAST TRIANGLE-HEADED ARROWaSOUTH EAST TRIANGLE-HEADED ARROWgWEST TRIANGLE-HEADED ARROWaLEFTWAR
  DS TRIANGLE-HEADED DASHED ARROWaUPWARDS TRIANGLE-HEADED DASHED ARROWaRIGHTWARDS TRIANGLE-HEADED DA
  SHED ARROWaDOWNWARDS TRIANGLE-HEADED DASHED ARROWaCLOCKWISE TRIANGLE-HEADED OPEN CIRCLE ARROWaANTI
  CLOCKWISE TRIANGLE-HEADED OPEN CIRCLE ARROWaLEFTWARDS TRIANGLE-HEADED ARROW TO BARaUPWARDS TRIANGL
  E-HEADED ARROW TO BARaRIGHTWARDS TRIANGLE-HEADED ARROW TO BARaDOWNWARDS TRIANGLE-HEADED ARROW TO B
  AR+2b76.aNORTH WEST TRIANGLE-HEADED ARROW TO BARgEAST TRIANGLE-HEADED ARROW TO BARaSOUTH EAST TRIA
  NGLE-HEADED ARROW TO BARgWEST TRIANGLE-HEADED ARROW TO BARaLEFTWARDS TRIANGLE-HEADED ARROW WITH DO
  UBLE HORIZONTAL STROKEaUPWARDS TRIANGLE-HEADED ARROW WITH DOUBLE HORIZONTAL STROKEaRIGHTWARDS TRIA
  NGLE-HEADED ARROW WITH DOUBLE HORIZONTAL STROKEaDOWNWARDS TRIANGLE-HEADED ARROW WITH DOUBLE HORIZO
  NTAL STROKEaHORIZONTAL TAB KEYaVERTICAL TAB KEYaLEFTWARDS TRIANGLE-HEADED ARROW OVER RIGHTWARDS TR
  IANGLE-HEADED ARROWaUPWARDS TRIANGLE-HEADED ARROW LEFTWARDS OF DOWNWARDS TRIANGLE-HEADED ARROWaRIG
  HTWARDS TRIANGLE-HEADED ARROW OVER LEFTWARDS TRIANGLE-HEADED ARROWaDOWNWARDS TRIANGLE-HEADED ARROW
   LEFTWARDS OF UPWARDS TRIANGLE-HEADED ARROWaLEFTWARDS TRIANGLE-HEADED PAIRED ARROWSaUPWARDS TRIANG
  LE-HEADED PAIRED ARROWSaRIGHTWARDS TRIANGLE-HEADED PAIRED ARROWSaDOWNWARDS TRIANGLE-HEADED PAIRED 
  ARROWSaLEFTWARDS BLACK CIRCLED WHITE ARROWaUPWARDS BLACK CIRCLED WHITE ARROWaRIGHTWARDS BLACK CIRC
  LED WHITE ARROWaDOWNWARDS BLACK CIRCLED WHITE ARROWaANTICLOCKWISE TRIANGLE-HEADED RIGHT U-SHAPED A
  RROWzADED BOTTOM U-SHAPED ARROWzADED LEFT U-SHAPED ARROWzADED TOP U-SHAPED ARROWaRETURN LEFThRIGHT
  aNEWLINE LEFTiRIGHTaFOUR CORNER ARROWS CIRCLING ANTICLOCKWISEaRIGHTWARDS BLACK ARROW+2b97.aSYMBOL 
  FOR TYPE A ELECTRONICSaTHREE-D TOP-LIGHTED LEFTWARDS EQUILATERAL ARROWHEADiRIGHT-LIGHTED UPWARDS E
  QUILATERAL ARROWHEADiTOP-LIGHTED RIGHTWARDS EQUILATERAL ARROWHEADiLEFT-LIGHTED DOWNWARDS EQUILATER
  AL ARROWHEADaBLACK LEFTWARDS EQUILATERAL ARROWHEADgUPWARDS EQUILATERAL ARROWHEADgRIGHTWARDS EQUILA
  TERAL ARROWHEADgDOWNWARDS EQUILATERAL ARROWHEADaDOWNWARDS TRIANGLE-HEADED ARROW WITH LONG TIP LEFT
  WARDSz ARROW WITH LONG TIP RIGHTWARDSaUPWARDS TRIANGLE-HEADED ARROW WITH LONG TIP LEFTWARDSzRROW W
  ITH LONG TIP RIGHTWARDSaLEFTWARDS TRIANGLE-HEADED ARROW WITH LONG TIP UPWARDSaRIGHTWARDS TRIANGLE-
  HEADED ARROW WITH LONG TIP UPWARDSaLEFTWARDS TRIANGLE-HEADED ARROW WITH LONG TIP DOWNWARDSaRIGHTWA
  RDS TRIANGLE-HEADED ARROW WITH LONG TIP DOWNWARDSaBLACK CURVED DOWNWARDS AND LEFTWARDS ARROWzD RIG
  HTWARDS ARROWnUPWARDS AND LEFTWARDS ARROWzRIGHTWARDS ARROWnLEFTWARDS AND UPWARDS ARROWnRIGHTWARDS 
  AND UPWARDS ARROWnLEFTWARDS AND DOWNWARDS ARROWnRIGHTWARDS AND DOWNWARDS ARROWaRIBBON ARROW DOWN L
  EFTsRIGHTnUP LEFTqRIGHTnLEFT UPnRIGHT UPnLEFT DOWNnRIGHT DOWNaUPWARDS WHITE ARROW FROM BAR WITH HO
  RIZONTAL BARc ARROWHEAD IN A RECTANGLE BOXaOVERLAPPING WHITE SQUARESsAND BLACK SQUARESmBLACK SQUAR
  ESaBALLOT BOX WITH LIGHT XaCIRCLED XiBOLD XaBLACK SQUARE CENTREDgDIAMOND CENTREDaTURNED BLACK PENT
  AGONaHORIZONTAL BLACK OCTAGONaBLACK OCTAGONgMEDIUM UP-POINTING TRIANGLE CENTREDnDOWN-POINTING TRIA
  NGLE CENTREDnLEFT-POINTING TRIANGLE CENTREDnRIGHT-POINTING TRIANGLE CENTREDaNEPTUNE FORM TWOaTOP H
  ALF BLACK CIRCLEaBOTTOM HALF BLACK CIRCLEaLIGHT FOUR POINTED BLACK CUSPaROTATED LIGHT FOUR POINTED
   BLACK CUSPaWHITE FOUR POINTED CUSPaROTATED WHITE FOUR POINTED CUSPaSQUARE POSITION INDICATORaUNCE
  RTAINTY SIGNaGROUP MARKaPLUTO FORM TWOmHREElFOURmIVEaTRANSPLUTOaPROSERPINAaASTRAEAaHYGIEAaPHOLUSaN
  ESSUSaWHITE MOON SELENAaBLACK DIAMOND ON CROSSaTRUE LIGHT MOON ARTAaCUPIDOaHADESaZEUSaKRONOSaAPOLL
  ONbDMETOSaVULCANUSaPOSEIDONaLEFT HALF BLACK STARaRIGHT HALF BLACK STARaSTAR WITH LEFT HALF BLACKkR
  IGHT HALF BLACKaLEFTWARDS TWO-HEADED ARROW WITH TRIANGLE ARROWHEADSaUPWARDS TWO-HEADED ARROW WITH 
  TRIANGLE ARROWHEADSaRIGHTWARDS TWO-HEADED ARROW WITH TRIANGLE ARROWHEADSaDOWNWARDS TWO-HEADED ARRO
  W WITH TRIANGLE ARROWHEADSaERIS FORM ONEkTWOaSEDNAaRUSSIAN ASTROLOGICAL SYMBOL VIGINTILEzOL NOVILE
  zOL QUINTILEzOL BINOVILEzOL SENTAGONzOL TREDECILEaEQUALS SIGN WITH INFINITY BELOWaUNITED SYMBOLaSE
  PARATED SYMBOLaDOUBLED SYMBOLaPASSED SYMBOLaREVERSED RIGHT ANGLEaHELLSCHREIBER PAUSE SYMBOLaGLAGOL
  ITIC CAPITAL LETTER AZUz BUKYz VEDEz GLAGOLIz DOBROz YESTUz ZHIVETEz DZELOz ZEMLJAz IZHEz INITIAL 
  IZHEz Iz DJERVIz KAKOz LJUDIJEz MYSLITEz NASHIz ONUz POKOJIz RITSIz SLOVOz TVRIDOz UKUz FRITUz HER
  Uz OTUz PEz SHTAz TSIz CHRIVIz SHAz YERUz YERIz YATIz SPIDERY HAz YUz SMALL YUSz SMALL YUS WITH TA
  ILz YOz IOTATED SMALL YUSz BIG YUSz IOTATED BIG YUSz FITAz IZHITSAz SHTAPICz TROKUTASTI Az LATINAT
  E MYSLITEz CAUDATE CHRIVIlSMALL LETTER AZUyBUKYyVEDEyGLAGOLIyDOBROyYESTUyZHIVETEyDZELOyZEMLJAyIZHE
  zNITIAL IZHEzyDJERVIyKAKOyLJUDIJEyMYSLITEyNASHIyONUyPOKOJIyRITSIySLOVOyTVRIDOyUKUyFRITUyHERUyOTUyP
  EySHTAyTSIyCHRIVIySHAyYERUzERIzATIySPIDERY HAyYUySMALL YUSzMALL YUS WITH TAILyYOyIOTATED SMALL YUS
  yBIG YUSyIOTATED BIG YUSyFITAyIZHITSAySHTAPICyTROKUTASTI AyLATINATE MYSLITEyCAUDATE CHRIVIaLATIN C
  APITAL LETTER L WITH DOUBLE BARgSMALL LETTER L WITH DOUBLE BARgCAPITAL LETTER L WITH MIDDLE TILDEv
  P WITH STROKEvR WITH TAILgSMALL LETTER A WITH STROKEtT WITH DIAGONAL STROKEgCAPITAL LETTER H WITH 
  DESCENDERgSMALL LETTER H WITH DESCENDERgCAPITAL LETTER K WITH DESCENDERgSMALL LETTER K WITH DESCEN
  DERgCAPITAL LETTER Z WITH DESCENDERgSMALL LETTER Z WITH DESCENDERgCAPITAL LETTER ALPHAvM WITH HOOK
  vTURNED AzED ALPHAgSMALL LETTER V WITH RIGHT HOOKgCAPITAL LETTER W WITH HOOKgSMALL LETTER W WITH H
  OOKtV WITH CURLgCAPITAL LETTER HALF HgSMALL LETTER HALF HtTAILLESS PHItE WITH NOTCHtTURNED R WITH 
  TAILtO WITH LOW RING INSIDEgLETTER SMALL CAPITAL TURNED EgSUBSCRIPT SMALL LETTER JaMODIFIER LETTER
   CAPITAL VaLATIN CAPITAL LETTER S WITH SWASH TAILvZ WITH SWASH TAILaCOPTIC CAPITAL LETTER ALFAhSMA
  LL LETTER ALFAhCAPITAL LETTER VIDAhSMALL LETTER VIDAhCAPITAL LETTER GAMMAhSMALL LETTER GAMMAhCAPIT
  AL LETTER DALDAhSMALL LETTER DALDAhCAPITAL LETTER EIEhSMALL LETTER EIEhCAPITAL LETTER SOUhSMALL LE
  TTER SOUhCAPITAL LETTER ZATAhSMALL LETTER ZATAhCAPITAL LETTER HATEhSMALL LETTER HATEhCAPITAL LETTE
  R THETHEhSMALL LETTER THETHEhCAPITAL LETTER IAUDAhSMALL LETTER IAUDAhCAPITAL LETTER KAPAhSMALL LET
  TER KAPAhCAPITAL LETTER LAULAhSMALL LETTER LAULAhCAPITAL LETTER MIhSMALL LETTER MIhCAPITAL LETTER 
  NIhSMALL LETTER NIhCAPITAL LETTER KSIhSMALL LETTER KSIhCAPITAL LETTER OhSMALL LETTER OhCAPITAL LET
  TER PIhSMALL LETTER PIhCAPITAL LETTER ROhSMALL LETTER ROhCAPITAL LETTER SIMAhSMALL LETTER SIMAhCAP
  ITAL LETTER TAUhSMALL LETTER TAUhCAPITAL LETTER UAhSMALL LETTER UAhCAPITAL LETTER FIhSMALL LETTER 
  FIhCAPITAL LETTER KHIhSMALL LETTER KHIhCAPITAL LETTER PSIhSMALL LETTER PSIhCAPITAL LETTER OOUhSMAL
  L LETTER OOUhCAPITAL LETTER DIALECT-P ALEFhSMALL LETTER DIALECT-P ALEFhCAPITAL LETTER OLD COPTIC A
  INhSMALL LETTER OLD COPTIC AINhCAPITAL LETTER CRYPTOGRAMMIC EIEhSMALL LETTER CRYPTOGRAMMIC EIEhCAP
  ITAL LETTER DIALECT-P KAPAhSMALL LETTER DIALECT-P KAPAhCAPITAL LETTER DIALECT-P NIhSMALL LETTER DI
  ALECT-P NIhCAPITAL LETTER CRYPTOGRAMMIC NIhSMALL LETTER CRYPTOGRAMMIC NIhCAPITAL LETTER OLD COPTIC
   OOUhSMALL LETTER OLD COPTIC OOUhCAPITAL LETTER SAMPIhSMALL LETTER SAMPIhCAPITAL LETTER CROSSED SH
  EIhSMALL LETTER CROSSED SHEIhCAPITAL LETTER OLD COPTIC SHEIhSMALL LETTER OLD COPTIC SHEIhCAPITAL L
  ETTER OLD COPTIC ESHhSMALL LETTER OLD COPTIC ESHhCAPITAL LETTER AKHMIMIC KHEIhSMALL LETTER AKHMIMI
  C KHEIhCAPITAL LETTER DIALECT-P HORIhSMALL LETTER DIALECT-P HORIhCAPITAL LETTER OLD COPTIC HORIhSM
  ALL LETTER OLD COPTIC HORIhCAPITAL LETTER OLD COPTIC HAhSMALL LETTER OLD COPTIC HAhCAPITAL LETTER 
  L-SHAPED HAhSMALL LETTER L-SHAPED HAhCAPITAL LETTER OLD COPTIC HEIhSMALL LETTER OLD COPTIC HEIhCAP
  ITAL LETTER OLD COPTIC HAThSMALL LETTER OLD COPTIC HAThCAPITAL LETTER OLD COPTIC GANGIAhSMALL LETT
  ER OLD COPTIC GANGIAhCAPITAL LETTER OLD COPTIC DJAhSMALL LETTER OLD COPTIC DJAhCAPITAL LETTER OLD 
  COPTIC SHIMAhSMALL LETTER OLD COPTIC SHIMAhCAPITAL LETTER OLD NUBIAN SHIMAhSMALL LETTER OLD NUBIAN
   SHIMAhCAPITAL LETTER OLD NUBIAN NGIhSMALL LETTER OLD NUBIAN NGIhCAPITAL LETTER OLD NUBIAN NYIhSMA
  LL LETTER OLD NUBIAN NYIhCAPITAL LETTER OLD NUBIAN WAUhSMALL LETTER OLD NUBIAN WAUiYMBOL KAIoMI RO
  oPI ROoSTAUROSoTAU ROoKHI ROoSHIMA SIMAhCAPITAL LETTER CRYPTOGRAMMIC SHEIhSMALL LETTER CRYPTOGRAMM
  IC SHEIhCAPITAL LETTER CRYPTOGRAMMIC GANGIAhSMALL LETTER CRYPTOGRAMMIC GANGIAhCOMBINING NI ABOVErS
  PIRITUS ASPERz LENISiAPITAL LETTER BOHAIRIC KHEIhSMALL LETTER BOHAIRIC KHEI+2cf9.hOLD NUBIAN FULL 
  STOPsDIRECT QUESTION MARKsINDIRECT QUESTION MARKsVERSE DIVIDERhFRACTION ONE HALFiULL STOPhMORPHOLO
  GICAL DIVIDERaGEORGIAN SMALL LETTER ANwBANwGANwDONwENwVINwZENwTANwINwKANwLASwMANwNARwONwPARwZHARwR
  AEwSANwTARwUNwPHARwKHARwGHANwQARwSHINwCHINxANwJILwCILxHARwXANwJHANwHAExExIEwWEwHARxOE+2d27.wYN+2d2
  d.wAEN+2d30.aTIFINAGH LETTER YAsBtHsGtHHqBERBER ACADEMY YAJqYAJsDtHtDuHrEYrAFsKqTUAREG YAKqYAKHHsH
  qBERBER ACADEMY YAHqTUAREG YAHqYAHHsAsKHqTUAREG YAKHqYAQqTUAREG YAQqYIrAZHqAHAGGAR YAZHqTUAREG YAZ
  HqYALsMsNqTUAREG YAGNzNGqYAPrUrARtRsGHqTUAREG YAGHqAYER YAGHqYAStStHsTtHsCHsTTsVsWsYsZqTAWELLEMET 
  YAZqYAZZrErO+2d6f.jMODIFIER LETTER LABIALIZATION MARKjSEPARATOR MARK+2d7f.jCONSONANT JOINERaETHIOP
  IC SYLLABLE LOAsMOAsROAsSOAtHOAsBOAsTOAsCOAsNOAtYOAsGLOTTAL OAsZOAsDOAtDOAsJOAsTHOAsCHOAsPHOAtOAsG
  GWAvIvEEw+2da0.sSSAuUuIuAAuEEvuO+2da8.sCCAuUuIuAAuEEvuO+2db0.sZZAuUuIuAAuEEvuO+2db8.sCCHAvUvIvAAvE
  EwvO+2dc0.sQYAuUuIuAAuEEvuO+2dc8.sKYAuUuIuAAuEEvuO+2dd0.sXYAuUuIuAAuEEvuO+2dd8.sGYAuUuIuAAuEEvuO+2
  de0.aCOMBINING CYRILLIC LETTER BEz VEz GHEz DEz ZHEz ZEz KAz ELz EMz ENz Oz PEz ERz ESz TEz HAz TS
  Ez CHEz SHAz SHCHAz FITAz ES-TEz Az IEz DJERVz MONOGRAPH UKz YATz YUz IOTIFIED Az LITTLE YUSz BIG 
  YUSz IOTIFIED BIG YUSaRIGHT ANGLE SUBSTITUTION MARKERmDOTTED SUBSTITUTION MARKERaLEFT SUBSTITUTION
   BRACKETaRIGHT SUBSTITUTION BRACKETaLEFT DOTTED SUBSTITUTION BRACKETaRIGHT DOTTED SUBSTITUTION BRA
  CKETbAISED INTERPOLATION MARKERhDOTTED INTERPOLATION MARKERaDOTTED TRANSPOSITION MARKERaLEFT TRANS
  POSITION BRACKETaRIGHT TRANSPOSITION BRACKETbAISED SQUAREaLEFT RAISED OMISSION BRACKETaRIGHT RAISE
  D OMISSION BRACKETaEDITORIAL CORONISaPARAGRAPHOSaFORKED PARAGRAPHOSaREVERSED FORKED PARAGRAPHOSaHY
  PODIASTOLEaDOTTED OBELOScWNWARDS ANCORAaUPWARDS ANCORAaDOTTED RIGHT-POINTING ANGLEcUBLE OBLIQUE HY
  PHENaINVERTED INTERROBANGaPALM BRANCHaHYPHEN WITH DIAERESISaTILDE WITH RING ABOVEaLEFT LOW PARAPHR
  ASE BRACKETaRIGHT LOW PARAPHRASE BRACKETaTILDE WITH DOT ABOVEpBELOWaLEFT VERTICAL BAR WITH QUILLaR
  IGHT VERTICAL BAR WITH QUILLaTOP LEFT HALF BRACKETeRIGHT HALF BRACKETaBOTTOM LEFT HALF BRACKEThRIG
  HT HALF BRACKETaLEFT SIDEWAYS U BRACKETaRIGHT SIDEWAYS U BRACKETaLEFT DOUBLE PARENTHESISaRIGHT DOU
  BLE PARENTHESISaTWO DOTS OVER ONE DOT PUNCTUATIONaONE DOT OVER TWO DOTS PUNCTUATIONaSQUARED FOUR D
  OT PUNCTUATIONaFIVE DOT MARKaREVERSED QUESTION MARKaVERTICAL TILDEaRING POINTaWORD SEPARATOR MIDDL
  E DOTaTURNED COMMAaRAISED DOThCOMMAaTURNED SEMICOLONaDAGGER WITH LEFT GUARDmRIGHT GUARDaTURNED DAG
  GERbOP HALF SECTION SIGNbWO-EM DASHbHREE-EM DASHaSTENOGRAPHIC FULL STOPaVERTICAL SIX DOTSaWIGGLY V
  ERTICAL LINEaCAPITULUMaDOUBLE HYPHENaREVERSED COMMAaDOUBLE LOW-REVERSED-9 QUOTATION MARKbASH WITH 
  LEFT UPTURNbOUBLE SUSPENSION MARKaINVERTED LOW KAVYKAt WITH KAVYKA ABOVEaLOW KAVYKAk WITH DOTaDOUB
  LE STACKED COMMAcTTED SOLIDUSaTRIPLE DAGGERaMEDIEVAL COMMAaPARAGRAPHUS MARKbUNCTUS ELEVATUS MARKaC
  ORNISH VERSE DIVIDERbROSS PATTY WITH RIGHT CROSSBARrLEFT CROSSBARaTIRONIAN SIGN CAPITAL ETaMEDIEVA
  L EXCLAMATION MARKjQUESTION MARKaLEFT SQUARE BRACKET WITH STROKEaRIGHT SQUARE BRACKET WITH STROKEa
  LEFT SQUARE BRACKET WITH DOUBLE STROKEaRIGHT SQUARE BRACKET WITH DOUBLE STROKEaTOP HALF LEFT PAREN
  THESISjRIGHT PARENTHESISaBOTTOM HALF LEFT PARENTHESISmRIGHT PARENTHESISaOBLIQUE HYPHEN+2e80.aCJK R
  ADICAL REPEATmCLIFFmSECOND ONEtTWOuHREEmPERSONmBOXmTABLEmKNIFE ONEsTWOmDIVINATIONmSEALnMALL ONEsTW
  OmLAME ONErTWOsHREErFOURmSNAKEmTHREADmSNOUT ONEsTWOmHEART ONEsTWOnANDmRAP+2e9b.mCHOKEmSUNmMOONmDEA
  THmMOTHERmCIVILIANmWATER ONEsTWOmFIREmPAW ONEqTWOmSIMPLIFIED HALF TREE TRUNKmCOWmDOGmJADEmBOLT OF 
  CLOTHmEYEmSPIRIT ONEtTWOmBAMBOOmSILKmC-SIMPLIFIED SILKmNET ONEqTWOrHREEqFOURmMESHmSHEEPmRAMmEWEmOL
  DmBRUSH ONEsTWOmMEATnORTARmGRASS ONEsTWOtHREEmTIGERmCLOTHESmWEST ONErTWOmC-SIMPLIFIED SEEmSIMPLIFI
  ED HORNmHORNmC-SIMPLIFIED SPEECHzSHELLmFOOTmC-SIMPLIFIED CARTmSIMPLIFIED WALKmWALK ONErTWOmCITYn-S
  IMPLIFIED GOLDmLONG ONErTWOmC-SIMPLIFIED LONGzGATEmMOUND ONEsTWOmRAINmBLUEmC-SIMPLIFIED TANNED LEA
  THERzLEAFzWINDzFLYmEAT ONEqTWOrHREEmC-SIMPLIFIED EATmHEADmC-SIMPLIFIED HORSEmBONEmGHOSTmC-SIMPLIFI
  ED FISHzBIRDzSALTmSIMPLIFIED WHEATxYELLOWmC-SIMPLIFIED FROGmJ-SIMPLIFIED EVENmC-SIMPLIFIED EVENmJ-
  SIMPLIFIED TOOTHmC-SIMPLIFIED TOOTHmJ-SIMPLIFIED DRAGONmC-SIMPLIFIED DRAGONmTURTLEmJ-SIMPLIFIED TU
  RTLEmC-SIMPLIFIED TURTLE+2f00.aKANGXI RADICAL ONEpLINEpDOTpSLASHqECONDpHOOKpTWOpLIDpMANpLEGSpENTER
  qIGHTpDOWN BOXpCOVERpICEpTABLEpOPEN BOXpKNIFEpPOWERpWRAPpSPOONpRIGHT OPEN BOXpHIDING ENCLOSUREpTEN
  pDIVINATIONpSEALpCLIFFpPRIVATEpAGAINpMOUTHpENCLOSUREqARTHpSCHOLARpGOr SLOWLYpEVENINGpBIGpWOMANpCHI
  LDpROOFpINCHpSMALLpLAMEpCORPSEpSPROUTpMOUNTAINpRIVERpWORKpONESELFpTURBANpDRYpSHORT THREADpDOTTED C
  LIFFpLONG STRIDEpTWO HANDSpSHOOTpBOWpSNOUTpBRISTLEpSTEPpHEARTqALBERDpDOORpHANDpBRANCHpRAPpSCRIPTpD
  IPPERpAXEpSQUAREpNOTpSUNqAYpMOONpTREEpLACKpSTOPpDEATHpWEAPONpDO NOTpCOMPAREpFURpCLANpSTEAMpWATERpF
  IREpCLAWpFATHERpDOUBLE XpHALF TREE TRUNKpSLICEpFANGpCOWpDOGpPROFOUNDpJADEpMELONpTILEpSWEETpLIFEpUS
  EpFIELDpBOLT OF CLOTHpSICKNESSpDOTTED TENTpWHITEpSKINpDISHpEYEpSPEARpARROWpSTONEqPIRITpTRACKpGRAIN
  pCAVEpSTANDpBAMBOOpRICEpSILKpJARpNETpSHEEPpFEATHERpOLDpANDpPLOWpEARpBRUSHpMEATqINISTERpSELFpARRIVE
  pMORTARpTONGUEpOPPOSEpBOATpSTOPPINGpCOLORpGRASSpTIGERpINSECTpBLOODpWALK ENCLOSUREpCLOTHESpWESTpSEE
  pHORNpSPEECHpVALLEYpBEANpPIGpBADGERpSHELLpREDqUNpFOOTpBODYpCARTpBITTERpMORNINGpWALKpCITYpWINEpDIST
  INGUISHpVILLAGEpGOLDpLONGpGATEpMOUNDpSLAVEqHORT TAILED BIRDpRAINpBLUEpWRONGpFACEpLEATHERpTANNED LE
  ATHERpLEEKpSOUNDpLEAFpWINDpFLYpEATpHEADpFRAGRANTpHORSEpBONEpTALLpHAIRpFIGHTpSACRIFICIAL WINEpCAULD
  RONpGHOSTpFISHpBIRDpSALTpDEERpWHEATpHEMPpYELLOWpMILLETpBLACKpEMBROIDERYpFROGpTRIPODpDRUMpRATpNOSEp
  EVENpTOOTHpDRAGONpTURTLEpFLUTE+2ff0.aIDEOGRAPHIC DESCRIPTION CHARACTER LEFT TO RIGHTzHARACTER ABOV
  E TO BELOWzHARACTER LEFT TO MIDDLE AND RIGHTzHARACTER ABOVE TO MIDDLE AND BELOWzHARACTER FULL SURR
  OUNDzHARACTER SURROUND FROM ABOVEzHARACTER SURROUND FROM BELOWzHARACTER SURROUND FROM LEFTzHARACTE
  R SURROUND FROM UPPER LEFTzHARACTER SURROUND FROM UPPER RIGHTzHARACTER SURROUND FROM LOWER LEFTzHA
  RACTER OVERLAID+3000.mSPACEmCOMMAmFULL STOPaDITTO MARKaJAPANESE INDUSTRIAL STANDARD SYMBOLaIDEOGRA
  PHIC ITERATION MARKmCLOSING MARKmNUMBER ZEROaLEFT ANGLE BRACKETaRIGHT ANGLE BRACKETaLEFT DOUBLE AN
  GLE BRACKETaRIGHT DOUBLE ANGLE BRACKETaLEFT CORNER BRACKETaRIGHT CORNER BRACKETaLEFT WHITE CORNER 
  BRACKETaRIGHT WHITE CORNER BRACKETaLEFT BLACK LENTICULAR BRACKETaRIGHT BLACK LENTICULAR BRACKETaPO
  STAL MARKaGETA MARKaLEFT TORTOISE SHELL BRACKETaRIGHT TORTOISE SHELL BRACKETaLEFT WHITE LENTICULAR
   BRACKETaRIGHT WHITE LENTICULAR BRACKETaLEFT WHITE TORTOISE SHELL BRACKETaRIGHT WHITE TORTOISE SHE
  LL BRACKETaLEFT WHITE SQUARE BRACKETaRIGHT WHITE SQUARE BRACKETaWAVE DASHaREVERSED DOUBLE PRIME QU
  OTATION MARKaDOUBLE PRIME QUOTATION MARKaLOW DOUBLE PRIME QUOTATION MARKaPOSTAL MARK FACEaHANGZHOU
   NUMERAL ONErTWOsHREErFOURsIVErSIXsEVENrEIGHTrNINEaIDEOGRAPHIC LEVEL TONE MARKmRISING TONE MARKmDE
  PARTING TONE MARKmENTERING TONE MARKaHANGUL SINGLE DOT TONE MARKhDOUBLE DOT TONE MARKaWAVY DASHaVE
  RTICAL KANA REPEAT MARKvWITH VOICED SOUND MARKvMARK UPPER HALFvWITH VOICED SOUND MARK UPPER HALFvM
  ARK LOWER HALFaCIRCLED POSTAL MARKaIDEOGRAPHIC TELEGRAPH LINE FEED SEPARATOR SYMBOLaHANGZHOU NUMER
  AL TENsWENTYsHIRTYaVERTICAL IDEOGRAPHIC ITERATION MARKaMASU MARKaPART ALTERNATION MARKaIDEOGRAPHIC
   VARIATION INDICATORmHALF FILL SPACE+3041.aHIRAGANA LETTER SMALL AqAqSMALL IqIqSMALL UqUqSMALL EqE
  qSMALL OqOqKAqGAqKIqGIqKUqGUqKEqGEqKOqGOqSAqZAqSIqZIqSUqZUqSEqZEqSOqZOqTAqDAqTIqDIqSMALL TUqTUqDUq
  TEqDEqTOqDOqNArIrUrErOqHAqBAqPAqHIqBIqPIqHUqBUqPUqHEqBEqPEqHOqBOqPOqMArIrUrErOqSMALL YAqYAqSMALL Y
  UqYUqSMALL YOqYOqRArIrUrErOqSMALL WAqWArIrErOqNqVUqSMALL KAxE+3099.aCOMBINING KATAKANA-HIRAGANA VO
  ICED SOUND MARKzNA SEMI-VOICED SOUND MARKaKATAKANA-HIRAGANA VOICED SOUND MARKsSEMI-VOICED SOUND MA
  RKaHIRAGANA ITERATION MARKjVOICED ITERATION MARKjDIGRAPH YORIaKATAKANA-HIRAGANA DOUBLE HYPHENi LET
  TER SMALL AqAqSMALL IqIqSMALL UqUqSMALL EqEqSMALL OqOqKAqGAqKIqGIqKUqGUqKEqGEqKOqGOqSAqZAqSIqZIqSU
  qZUqSEqZEqSOqZOqTAqDAqTIqDIqSMALL TUqTUqDUqTEqDEqTOqDOqNArIrUrErOqHAqBAqPAqHIqBIqPIqHUqBUqPUqHEqBE
  qPEqHOqBOqPOqMArIrUrErOqSMALL YAqYAqSMALL YUqYUqSMALL YOqYOqRArIrUrErOqSMALL WAqWArIrErOqNqVUqSMAL
  L KAxEqVArIrErOjMIDDLE DOTi-HIRAGANA PROLONGED SOUND MARKi ITERATION MARKjVOICED ITERATION MARKjDI
  GRAPH KOTO+3105.aBOPOMOFO LETTER BqPqMqFqDqTqNqLqGqKqHqJqQqXqZHqCHqSHqRqZqCqSqAqOqErHqAIqEIqAUqOUq
  ANqENqANGqENGrRqIqUqIUqVqNGqGNqIHqO WITH DOT ABOVEqNN+3131.aHANGUL LETTER KIYEOKoSSANGKIYEOKoKIYEO
  K-SIOSoNIEUNt-CIEUCuHIEUHoTIKEUToSSANGTIKEUToRIEULt-KIYEOKuMIEUMuPIEUPuSIOSuTHIEUTHuPHIEUPHuHIEUHo
  MIEUMoPIEUPoSSANGPIEUPoPIEUP-SIOSoSIOSpSANGSIOSoIEUNGoCIEUCoSSANGCIEUCoCHIEUCHoKHIEUKHoTHIEUTHoPHI
  EUPHoHIEUHoApEoYAqEoEOpoYEOqoOoWAqEoOEoYOoUoWEOqpIoYUoEUoYIoIhFILLERhLETTER SSANGNIEUNoNIEUN-TIKEU
  TuSIOSuPANSIOSoRIEUL-KIYEOK-SIOSuTIKEUTuPIEUP-SIOSvANSIOSuYEORINHIEUHoMIEUM-PIEUPuSIOSuPANSIOSoKAP
  YEOUNMIEUMoPIEUP-KIYEOKuTIKEUTuSIOS-KIYEOKzTIKEUTuCIEUCuTHIEUTHoKAPYEOUNPIEUPwSSANGPIEUPoSIOS-KIYE
  OKtNIEUNtTIKEUTtPIEUPtCIEUCoPANSIOSoSSANGIEUNGoYESIEUNGw-SIOSxPANSIOSoKAPYEOUNPHIEUPHoSSANGHIEUHoY
  EORINHIEUHpO-YAtErIpU-YEOtrIoARAEAtE+3190.aIDEOGRAPHIC ANNOTATION LINKING MARKxREVERSE MARKxONE MA
  RKxTWO MARKyHREE MARKxFOUR MARKxTOP MARKxMIDDLE MARKxBOTTOM MARKxFIRST MARKxSECOND MARKxTHIRD MARK
  xFOURTH MARKxHEAVEN MARKxEARTH MARKxMAN MARKaBOPOMOFO LETTER BUqZIqJIqGUqEErNNqOOrNNqIRqANNqINNqUN
  NqIMqNGGqAINNrUNNrMqOMrNGqINNNjFINAL LETTER PwTwKwHjLETTER GHqLHqZYjFINAL LETTER GjLETTER GWqKWqOE
  qAHaCJK STROKE TlWGlXGlBXGlSWlHZZnGmPmZWGlSZWGlHZTnZPmPWGmZWnZZlNlHlSlPlSPlDlHZmGlSZmWZmTmGlPDmZlT
  NlSZZmWGlHXWGmZZZGlPGlQ+31f0.aKATAKANA LETTER SMALL KUwSIxUwTOwNUwHAxIxUxExOwMUwRAxIxUxExOaPARENTH
  ESIZED HANGUL KIYEOKvNIEUNvTIKEUTvRIEULvMIEUMvPIEUPvSIOSvIEUNGvCIEUCwHIEUCHvKHIEUKHvTHIEUTHvPHIEUP
  HvHIEUHvKIYEOK AvNIEUN AvTIKEUT AvRIEUL AvMIEUM AvPIEUP AvSIOS AvIEUNG AvCIEUC AwHIEUCH AvKHIEUKH 
  AvTHIEUTH AvPHIEUPH AvHIEUH AvCIEUC UoKOREAN CHARACTER OJEONzACTER O HU+3220.oIDEOGRAPH ONEyTWOzHR
  EEyFOURzIVEySIXzEVENyEIGHTyNINEyTENyMOONyFIREyWATERzOODyMETALyEARTHySUNzTOCKyHAVEySOCIETYyNAMEySPE
  CIALyFINANCIALyCONGRATULATIONyLABORyREPRESENTyCALLySTUDYzUPERVISEyENTERPRISEyRESOURCEyALLIANCEyFES
  TIVALyRESTySELFyREACHaCIRCLED IDEOGRAPH QUESTIONsKINDERGARTENsSCHOOLsKOTOiNUMBER TEN ON BLACK SQUA
  REqWENTY ON BLACK SQUAREqHIRTY ON BLACK SQUAREpFORTY ON BLACK SQUAREqIFTY ON BLACK SQUAREpSIXTY ON
   BLACK SQUAREqEVENTY ON BLACK SQUAREpEIGHTY ON BLACK SQUAREaPARTNERSHIP SIGNaCIRCLED NUMBER TWENTY
   ONEwTWOxHREEwFOURxIVEwSIXxEVENwEIGHTwNINEqHIRTYv ONEwTWOxHREEwFOURxIVEiHANGUL KIYEOKpNIEUNpTIKEUT
  pRIEULpMIEUMpPIEUPpSIOSpIEUNGpCIEUCqHIEUCHpKHIEUKHpTHIEUTHpPHIEUPHpHIEUHpKIYEOK ApNIEUN ApTIKEUT A
  pRIEUL ApMIEUM ApPIEUP ApSIOS ApIEUNG ApCIEUC AqHIEUCH ApKHIEUKH ApTHIEUTH ApPHIEUPH ApHIEUH AiKOR
  EAN CHARACTER CHAMKOzJUEUIiHANGUL IEUNG UaKOREAN STANDARD SYMBOLaCIRCLED IDEOGRAPH ONEsTWOtHREEsFO
  URtIVEsSIXtEVENsEIGHTsNINEsTENsMOONsFIREsWATERtOODsMETALsEARTHsSUNtTOCKsHAVEsSOCIETYsNAMEsSPECIALs
  FINANCIALsCONGRATULATIONsLABORsSECRETsMALEsFEMALEsSUITABLEsEXCELLENTsPRINTsATTENTIONsITEMsRESTsCOP
  YuRRECTsHIGHsCENTREsLOWtEFTsRIGHTsMEDICINEsRELIGIONsSTUDYtUPERVISEsENTERPRISEsRESOURCEsALLIANCEsNI
  GHTiNUMBER THIRTY SIXxEVENwEIGHTwNINEpFORTYu ONEvTWOwHREEvFOURwIVEvSIXwEVENvEIGHTvNINEqIFTYaIDEOGR
  APHIC TELEGRAPH SYMBOL FOR JANUARYzBOL FOR FEBRUARYzBOL FOR MARCHzBOL FOR APRILzBOL FOR MAYzBOL FO
  R JUNEzBOL FOR JULYzBOL FOR AUGUSTzBOL FOR SEPTEMBERzBOL FOR OCTOBERzBOL FOR NOVEMBERzBOL FOR DECE
  MBERaSQUARE HGhERGiVaLIMITED LIABILITY SIGNaCIRCLED KATAKANA ArIrUrErOrKAsIsUsEsOrSAsIsUsEsOrTAsIs
  UsEsOrNAsIsUsEsOrHAsIsUsEsOrMAsIsUsEsOrYAsUsOrRAsIsUsEsOrWAsIsEsOaSQUARE ERA NAME REIWAhAPAATOiRUH
  UAiNPEAiARUhININGUjTIhUONhESUKUUDOiEKAAhONSUiOMUhKAIRIjRATTOkORIIhGARONjNMAiIGAjNIIhKYURIIhGIRUDAA
  hKIROlGURAMUlMEETORUlWATTOhGURAMUnTONhKURUZEIROkOONEiEESUiORUNAjOPOhSAIKURUjNTIIMUiIRINGUiENTIlOhD
  AASUiESIiORUhTONhNANOiOTTOhHAITUhPAASENTOkTUhBAARERUhPIASUTORUjKURUkOhBIRUhHUARADDOjIITOhBUSSYERUh
  HURANiEKUTAARUhPESOjNIHIhHERUTUhPENSUjEZIhBEETAhPOINTOhBORUTOhHONhPONDOhHOORUkNhMAIKUROkRUjHHAjRUK
  UjNSYONiIKURONjRIlBAARUiEGAlTONjETORUhYAADOkRUiUANhRITTORUjRAiUPIIjUBURUiEMUjNTOGENhWATTOaIDEOGRAP
  HIC TELEGRAPH SYMBOL FOR HOUR ZEROzBOL FOR HOUR ONEzBOL FOR HOUR TWOzBOL FOR HOUR THREEzBOL FOR HO
  UR FOURzBOL FOR HOUR FIVEzBOL FOR HOUR SIXzBOL FOR HOUR SEVENzBOL FOR HOUR EIGHTzBOL FOR HOUR NINE
  zBOL FOR HOUR TENzBOL FOR HOUR ELEVENzBOL FOR HOUR TWELVEzBOL FOR HOUR THIRTEENzBOL FOR HOUR FOURT
  EENzBOL FOR HOUR FIFTEENzBOL FOR HOUR SIXTEENzBOL FOR HOUR SEVENTEENzBOL FOR HOUR EIGHTEENzBOL FOR
   HOUR NINETEENzBOL FOR HOUR TWENTYzBOL FOR HOUR TWENTY-ONEzBOL FOR HOUR TWENTY-TWOzBOL FOR HOUR TW
  ENTY-THREEzBOL FOR HOUR TWENTY-FOURaSQUARE HPAhDAhAUhBARhOVhPChDMj SQUAREDkCUBEDhIUhERA NAME HEISE
  IqSYOUWAqTAISYOUqMEIZIhCORPORATIONhPA AMPShNAhMU AiAhKAiBhMBhGBhCALhKCALhPFhNFhMU FkGiGhKGhHZhKHZh
  MHZhGHZhTHZhMU LiLhDLhKLhFMhNMhMU MiMhCMhKMhMM SQUAREDhCM SQUAREDhM SQUAREDhKM SQUAREDhMM CUBEDhCM
   CUBEDhM CUBEDhKM CUBEDhM OVER Sp SQUAREDhPAhKPAhMPAhGPAhRADk OVER Sr SQUAREDhPShNShMU SiShPVhNVhM
  U ViVhKVhMV MEGAhPWhNWhMU WiWhKWhMW MEGAhK OHMhM OHMhAMhBQhCCiDi OVER KGiOhDBhGYhHAiPhINhKKiM CAPI
  TALiThLMiNiOGiXhMB SMALLiILiOLhPHiMiPMiRhSRiVhWBhV OVER MhA OVER MaIDEOGRAPHIC TELEGRAPH SYMBOL FO
  R DAY ONEzBOL FOR DAY TWOzBOL FOR DAY THREEzBOL FOR DAY FOURzBOL FOR DAY FIVEzBOL FOR DAY SIXzBOL 
  FOR DAY SEVENzBOL FOR DAY EIGHTzBOL FOR DAY NINEzBOL FOR DAY TENzBOL FOR DAY ELEVENzBOL FOR DAY TW
  ELVEzBOL FOR DAY THIRTEENzBOL FOR DAY FOURTEENzBOL FOR DAY FIFTEENzBOL FOR DAY SIXTEENzBOL FOR DAY
   SEVENTEENzBOL FOR DAY EIGHTEENzBOL FOR DAY NINETEENzBOL FOR DAY TWENTYzBOL FOR DAY TWENTY-ONEzBOL
   FOR DAY TWENTY-TWOzBOL FOR DAY TWENTY-THREEzBOL FOR DAY TWENTY-FOURzBOL FOR DAY TWENTY-FIVEzBOL F
  OR DAY TWENTY-SIXzBOL FOR DAY TWENTY-SEVENzBOL FOR DAY TWENTY-EIGHTzBOL FOR DAY TWENTY-NINEzBOL FO
  R DAY THIRTYzBOL FOR DAY THIRTY-ONEaSQUARE GAL+4dc0.aHEXAGRAM FOR THE CREATIVE HEAVENrRECEPTIVE EA
  RTHnDIFFICULTY AT THE BEGINNINGnYOUTHFUL FOLLYnWAITINGnCONFLICTnTHE ARMYnHOLDING TOGETHERnSMALL TA
  MINGnTREADINGnPEACEnSTANDSTILLnFELLOWSHIPnGREAT POSSESSIONnMODESTYnENTHUSIASMnFOLLOWINGnWORK ON TH
  E DECAYEDnAPPROACHnCONTEMPLATIONnBITING THROUGHnGRACEnSPLITTING APARTnRETURNnINNOCENCEnGREAT TAMIN
  GnMOUTH CORNERSnGREAT PREPONDERANCEnTHE ABYSMAL WATERrCLINGING FIREnINFLUENCEnDURATIONnRETREATnGRE
  AT POWERnPROGRESSnDARKENING OF THE LIGHTnTHE FAMILYnOPPOSITIONoBSTRUCTIONnDELIVERANCEpCREASEnINCRE
  ASEnBREAKTHROUGHnCOMING TO MEETnGATHERING TOGETHERnPUSHING UPWARDnOPPRESSIONnTHE WELLnREVOLUTIONnT
  HE CAULDRONrAROUSING THUNDERrKEEPING STILL MOUNTAINnDEVELOPMENTnTHE MARRYING MAIDENnABUNDANCEnTHE 
  WANDERERrGENTLE WINDrJOYOUS LAKEnDISPERSIONnLIMITATIONnINNER TRUTHnSMALL PREPONDERANCEnAFTER COMPL
  ETIONnBEFORE COMPLETION+a000.aYI SYLLABLE ITnXnnPnEToXooPmATnXnnPmUOXooPmOTnXnnPmEXnmWUmBIToXooPoE
  TpXppPnAToXooPnUOXppPnOToXooPnEXooPnUToXooPoRXpnYToXooPoRXpmPIToXooPoEXppPnAToXooPnUOXppPnOToXooPn
  UToXooPoRXpnYToXooPoRXpmBBITpXppPpETqXqqPoATpXppPoUOXqqPoOTpXppPoEXppPoUTpXppPpRXqoYTpXppPmNBITpXp
  pPpEXqqPoATpXppPoOTpXppPoUTpXppPpRXqoYTpXppPpRXqmHMITpXppPpEXqqPoATpXppPoUOXqqPoOTpXppPoUTpXppPpRX
  qoYXppPpRXqmMIToXooPoEXppPnAToXooPnUOTpXppPnOToXooPnEXonUToXooPoRXpnYToXooPmFIToXooPnAToXooPnOXooP
  nUToXooPoRXpnYToXooPmVIToXooPoETpXppPnAToXooPnOToXooPnEXoPnUToXooPoRXpnYToXooPoRXpmDIToXooPoEXppPn
  AToXooPnUOXpnOToXooPnEXooPnUToXooPoRXpmTIToXooPoEXppPnAToXooPnUOTpXppPnOToXooPnEXooPnUToXooPoRXpmD
  DITpXppPpEXqqPoATpXppPoUOXqqPoOTpXppPoEXppPoUTpXppPpRXqmNDITpXppPpEXqoATpXppPoOTpXppPoEXppPoUTpXpp
  PpRXqmHNITpXppPpETqXqqPoATpXppPoUOXqoOTpXpPoEXppPoUTmNIToXooPoEXppPnAXooPnUOXppPnOToXooPnEXooPnUTo
  XooPoRXpmHLITpXppPpEXqqPoATpXppPoUOXqqPoOXppPoEXppPoUTpXppPpRXqoYTpXppPpRXqmLIToXooPoETpXppPnAToXo
  oPnUOTpXppPnOToXooPnEXooPnUToXooPoRXpnYToXooPoRXpmGIToXooPoETpXppPnAToXooPnUOTpXppPnOToXooPnEToXoo
  PnUToXooPoRXpmKIToXooPoEXppPnAToXooPnUOXppPnOToXooPnEToXooPnUToXooPoRXpmGGITpXppEXqqPoATpXppPoUOTq
  XqqPoOTpXppPoETpXppPoUTpXppPpRXqmMGIEXqoATpXppPoUOXqqPoOTpXppPoEXppPoUTpXppPpRXqmHXITpXppPpETqXqqP
  oATpXppPoUOTqXqqPoOTpXppPoEXppPmNGIEXqqPoATpXppPoUOTqXqoOTpXppPoEXppPmHIToEXpnAToXooPnUOTpXppPnOTo
  XooPnEXooPmWAToXooPnUOXppPnOXooPnEXooPmZIToXooPoEXppPnAToXooPnUOXppPnOToXooPnEXooPnUToXooPoRXpnYTo
  XooPoRXpmCIToXooPoETpXppPnAToXooPnUOXppPnOToXooPnEXooPnUToXooPoRXpnYToXooPoRXpmZZITpXppPpETqXqqPoA
  TpXppPoOXppPoEXppPoUXppPpRXqoYTpXppPpRXqmNZITpXppPpEXqqPoATpXppPoUOXqoOXpPoEXpoUXppPpRXqoYTpXppPpR
  XqmSIToXooPoEXppPnAToXooPnUOXppPnOToXooPnEXooPnUToXooPoRXpnYToXooPoRXpnSITpXppPpEXqqPoATpXppPoOTpX
  ppPoEXppPoUTpXppPoYTpXppPpRXqmZHATpXppPoUOXqqPoOTpXppPoETpXppPoUTpXppPpRXqoYTpXppPpRXqmCHATpXppPoU
  OTqXqqPoOTpXppPoETpXppPoUXppPpRXqoYTpXppPpRXqmRRAXpoUOXqoOTpXppPoETpXppPoUTpXppPpRXqoYTpXppPpRXqmN
  RATpXppPoOXppPoETpXppPoUTpXppPpRXqoYTpXppPpRXqmSHATpXppPoUOXqqPoOTpXppPoETpXppPoUTpXppPpRXqoYTpXpp
  PpRXqmRAToXooPnUOXppPnOToXooPnEXooPnUToXooPoRXpnYToXooPoRXpmJIToXooPoETpXppPnUOTpXppPnOToXooPnUToX
  ooPoRXpnYToXooPoRXpmQIToXooPoETpXppPnUOTpXppPnOToXooPnUToXooPoRXpnYToXooPoRXpmJJITpXppPpETqXqqPoUO
  XqqPoOTpXppPoUTpXppPpRXqoYTpXppPmNJITpXppPpETqXqqPoUOXqoOTpXppPoUXppPpRXqoYTpXppPpRXqnYITpXppPpETq
  XqqPoUOXqqPoOTpXppPoUTpXppPmXIToXooPoETpXppPnUOXpnOToXooPnYToXooPoRXpmYIToXooPoETpXppPnUOTpXppPnOT
  oXooPnUToXooPoRXpnYToXooPoRXp+a490.dRADICAL QOTlLIlKITlNYIPlCYPlSSIlGGOPmEPlMIlHXITlLYRlBBUTlMOPlY
  OlPUTlHXUOlTATlGAlZUPlCYTlDDURlBURlGGUOlNYOPlTUlOPlJJUTlZOTlPYTlHMOlYITlVURlSHYlVEPlZAlJOlNZUPlJJY
  lGOTlJJIElWOlDUlSHURlLIElCYmUOPmIPlHXOPlSHATlZURlSHOPlCHElZZIETlNBIElKE+a4d0.aLISU LETTER BAmPAnHA
  mDAmTAnHAmGAmKAnHAmJAmCAnHAmDZAmTSAoHAmMAmNAmLAmSAmZHAnAmNGAmHAmXAmHHAmFAmWAmSHAmYAmGHAmAnEmEnUmIm
  OmUnEnHmOEmTONE MYA TIrNA POrMYA CYAvBOvNAvJEUfPUNCTUATION COMMArFULL STOPaVAI SYLLABLE EEpNnHEEnW
  EEqNnPEEnBHEEoEEnMBEEnKPEEnMGBEEnGBEEnFEEnVEEnTEEoHEEnDHEEpHEEnLEEnREEnDEEnNDEEnSEEoHEEnZEEoHEEnCE
  EnJEEnNJEEnYEEnKEEnNGGEEnGEEnMEEnNEEoYEEnIoNnHIpNnWIpNnPInBHIoInMBInKPInMGBInGBInFInVInTIoHInDHIpH
  InLInRInDInNDInSIoHInZIoHInCInJInNJInYInKInNGGInGInMInNIoYInAoNnNGANnHApNnWApNnPAnBHAoAnMBAnKPAqNn
  MGBAnGBAnFAnVAnTAoHAnDHApHAnLAnRAnDAnNDAnSAoHAnZAoHAnCAnJAnNJAnYAnKApNnNGGAnGAnMAnNAoYAnOOpNnHOOnW
  OOqNnPOOnBHOOoOOnMBOOnKPOOnMGBOOnGBOOnFOOnVOOnTOOoHOOnDHOOpHOOnLOOnROOnDOOnNDOOnSOOoHOOnZOOoHOOnCO
  OnJOOnNJOOnYOOnKOOnNGGOOnGOOnMOOnNOOoYOOnUoNnHUpNnWUpNnPUnBHUoUnMBUnKPUnMGBUnGBUnFUnVUnTUoHUnDHUpH
  UnLUnRUnDUnNDUnSUoHUnZUoHUnCUnJUnNJUnYUnKUnNGGUnGUnMUnNUoYUnOoNnNGONnHOpNnWOpNnPOnBHOoOnMBOnKPOnMG
  BOnGBOqNnFOnVOnTOoHOnDHOpHOnLOnROnDOnNDOnSOoHOnZOoHOnCOnJOnNJOnYOnKOnNGGOnGOnMOnNOoYOnEoNnNGENnHEp
  NnWEpNnPEnBHEoEnMBEnKPEqNnMGBEnGBEqNnFEnVEnTEoHEnDHEpHEnLEnREnDEnNDEnSEoHEnZEoHEnCEnJEnNJEnYEnKEnN
  GGErNnGEpNnMEnNEoYEoGnLENGTHENEReCOMMAeFULL STOPeQUESTION MARKeSYLLABLE NDOLE FAtKAtSOOgMBOL FEENG
  lKEENGlTINGlNIIlBANGlFAAlTAAlDANGmOONGlKUNGlTONGlDO-OlJONGeDIGIT ZEROkONEkTWOlHREEkFOURlIVEkSIXlEV
  ENkEIGHTkNINEeSYLLABLE NDOLE MAtDO+a640.aCYRILLIC CAPITAL LETTER ZEMLYAjSMALL LETTER ZEMLYAjCAPITA
  L LETTER DZELOjSMALL LETTER DZELOjCAPITAL LETTER REVERSED DZEjSMALL LETTER REVERSED DZEjCAPITAL LE
  TTER IOTAjSMALL LETTER IOTAjCAPITAL LETTER DJERVjSMALL LETTER DJERVjCAPITAL LETTER MONOGRAPH UKjSM
  ALL LETTER MONOGRAPH UKjCAPITAL LETTER BROAD OMEGAjSMALL LETTER BROAD OMEGAjCAPITAL LETTER NEUTRAL
   YERjSMALL LETTER NEUTRAL YERjCAPITAL LETTER YERU WITH BACK YERjSMALL LETTER YERU WITH BACK YERjCA
  PITAL LETTER IOTIFIED YATjSMALL LETTER IOTIFIED YATjCAPITAL LETTER REVERSED YUjSMALL LETTER REVERS
  ED YUjCAPITAL LETTER IOTIFIED AjSMALL LETTER IOTIFIED AjCAPITAL LETTER CLOSED LITTLE YUSjSMALL LET
  TER CLOSED LITTLE YUSjCAPITAL LETTER BLENDED YUSjSMALL LETTER BLENDED YUSjCAPITAL LETTER IOTIFIED 
  CLOSED LITTLE YUSjSMALL LETTER IOTIFIED CLOSED LITTLE YUSjCAPITAL LETTER YNjSMALL LETTER YNjCAPITA
  L LETTER REVERSED TSEjSMALL LETTER REVERSED TSEjCAPITAL LETTER SOFT DEjSMALL LETTER SOFT DEjCAPITA
  L LETTER SOFT ELjSMALL LETTER SOFT ELjCAPITAL LETTER SOFT EMjSMALL LETTER SOFT EMjCAPITAL LETTER M
  ONOCULAR OjSMALL LETTER MONOCULAR OjCAPITAL LETTER BINOCULAR OjSMALL LETTER BINOCULAR OjCAPITAL LE
  TTER DOUBLE MONOCULAR OjSMALL LETTER DOUBLE MONOCULAR OjLETTER MULTIOCULAR ObOMBINING CYRILLIC VZM
  ETtTEN MILLIONS SIGNtHUNDRED MILLIONS SIGNtTHOUSAND MILLIONS SIGNaSLAVONIC ASTERISKaCOMBINING CYRI
  LLIC LETTER UKRAINIAN IEz Iz YIz Uz HARD SIGNz YERUz SOFT SIGNz OMEGAtKAVYKAtPAYEROKbYRILLIC KAVYK
  AjPAYEROKjCAPITAL LETTER DWEjSMALL LETTER DWEjCAPITAL LETTER DZWEjSMALL LETTER DZWEjCAPITAL LETTER
   ZHWEjSMALL LETTER ZHWEjCAPITAL LETTER CCHEjSMALL LETTER CCHEjCAPITAL LETTER DZZEjSMALL LETTER DZZ
  EjCAPITAL LETTER TE WITH MIDDLE HOOKjSMALL LETTER TE WITH MIDDLE HOOKjCAPITAL LETTER TWEjSMALL LET
  TER TWEjCAPITAL LETTER TSWEjSMALL LETTER TSWEjCAPITAL LETTER TSSEjSMALL LETTER TSSEjCAPITAL LETTER
   TCHEjSMALL LETTER TCHEjCAPITAL LETTER HWEjSMALL LETTER HWEjCAPITAL LETTER SHWEjSMALL LETTER SHWEj
  CAPITAL LETTER DOUBLE OjSMALL LETTER DOUBLE OjCAPITAL LETTER CROSSED OjSMALL LETTER CROSSED OaMODI
  FIER LETTER CYRILLIC HARD SIGNzSOFT SIGNaCOMBINING CYRILLIC LETTER EFz IOTIFIED EaBAMUM LETTER AnK
  AnUnKUnEEnREEnTAEnOnNYInInLAnPAnRIIpEEnLEEEEnMEEEEnTAAnNDAAoJAEMnMnSUUnMUnSHIIoIoHEUXoEUXnKYEEoETn
  NUAEpoJUAEnYOQnSHUnYUQoAnNSHAnKEUXnPEUXnNJEEoTEEnPUEnWUEnPEEnFEEnRUnLUnMInNInREUXoAEnKENnNGKWAENpG
  ApAnSHOnPUAEnFUoOMnWAnNAnLInPInLOQnKOnMBENnRENnMENoAnTInKInMOoBAAnTETnKPAnTENnNTUUnSAMBAnFAAMAEnKO
  VUUpGHOMgCOMBINING MARK KOQNDONvTUKWENTISgNJAEMLIgFULL STOPgCOLONiMMAgSEMICOLONgQUESTION MARK+a700
  .aMODIFIER LETTER CHINESE TONE YIN PINGzONE YANG PINGzONE YIN SHANGzONE YANG SHANGzONE YIN QUzONE 
  YANG QUzONE YIN RUzONE YANG RUqEXTRA-HIGH DOTTED TONE BARqHIGH DOTTED TONE BARqMID DOTTED TONE BAR
  qLOW DOTTED TONE BARqEXTRA-LOW DOTTED TONE BARwHIGH DOTTED LEFT-STEM TONE BARqHIGH DOTTED LEFT-STE
  M TONE BARqMID DOTTED LEFT-STEM TONE BARqLOW DOTTED LEFT-STEM TONE BARqEXTRA-LOW DOTTED LEFT-STEM 
  TONE BARwHIGH LEFT-STEM TONE BARqHIGH LEFT-STEM TONE BARqMID LEFT-STEM TONE BARqLOW LEFT-STEM TONE
   BARqEXTRA-LOW LEFT-STEM TONE BARqDOT VERTICAL BARuSLASHuHORIZONTAL BARqLOWER RIGHT CORNER ANGLEqR
  AISED UP ARROWxDOWN ARROWxEXCLAMATION MARKxINVERTED EXCLAMATION MARKqLOW INVERTED EXCLAMATION MARK
  qSTRESS AND HIGH TONEzD LOW TONEaLATIN CAPITAL LETTER EGYPTOLOGICAL ALEFgSMALL LETTER EGYPTOLOGICA
  L ALEFgCAPITAL LETTER EGYPTOLOGICAL AINgSMALL LETTER EGYPTOLOGICAL AINgCAPITAL LETTER HENGgSMALL L
  ETTER HENGgCAPITAL LETTER TZgSMALL LETTER TZgCAPITAL LETTER TRESILLOgSMALL LETTER TRESILLOgCAPITAL
   LETTER CUATRILLOgSMALL LETTER CUATRILLOgCAPITAL LETTER CUATRILLO WITH COMMAgSMALL LETTER CUATRILL
  O WITH COMMAgLETTER SMALL CAPITAL FzL SgCAPITAL LETTER AAgSMALL LETTER AAgCAPITAL LETTER AOgSMALL 
  LETTER AOgCAPITAL LETTER AUgSMALL LETTER AUgCAPITAL LETTER AVgSMALL LETTER AVgCAPITAL LETTER AV WI
  TH HORIZONTAL BARgSMALL LETTER AV WITH HORIZONTAL BARgCAPITAL LETTER AYgSMALL LETTER AYgCAPITAL LE
  TTER REVERSED C WITH DOTgSMALL LETTER REVERSED C WITH DOTgCAPITAL LETTER K WITH STROKEgSMALL LETTE
  R K WITH STROKEgCAPITAL LETTER K WITH DIAGONAL STROKEgSMALL LETTER K WITH DIAGONAL STROKEgCAPITAL 
  LETTER K WITH STROKE AND DIAGONAL STROKEgSMALL LETTER K WITH STROKE AND DIAGONAL STROKEgCAPITAL LE
  TTER BROKEN LgSMALL LETTER BROKEN LgCAPITAL LETTER L WITH HIGH STROKEgSMALL LETTER L WITH HIGH STR
  OKEgCAPITAL LETTER O WITH LONG STROKE OVERLAYgSMALL LETTER O WITH LONG STROKE OVERLAYgCAPITAL LETT
  ER O WITH LOOPgSMALL LETTER O WITH LOOPgCAPITAL LETTER OOgSMALL LETTER OOgCAPITAL LETTER P WITH ST
  ROKE THROUGH DESCENDERgSMALL LETTER P WITH STROKE THROUGH DESCENDERgCAPITAL LETTER P WITH FLOURISH
  gSMALL LETTER P WITH FLOURISHgCAPITAL LETTER P WITH SQUIRREL TAILgSMALL LETTER P WITH SQUIRREL TAI
  LgCAPITAL LETTER Q WITH STROKE THROUGH DESCENDERgSMALL LETTER Q WITH STROKE THROUGH DESCENDERgCAPI
  TAL LETTER Q WITH DIAGONAL STROKEgSMALL LETTER Q WITH DIAGONAL STROKEgCAPITAL LETTER R ROTUNDAgSMA
  LL LETTER R ROTUNDAgCAPITAL LETTER RUM ROTUNDAgSMALL LETTER RUM ROTUNDAgCAPITAL LETTER V WITH DIAG
  ONAL STROKEgSMALL LETTER V WITH DIAGONAL STROKEgCAPITAL LETTER VYgSMALL LETTER VYgCAPITAL LETTER V
  ISIGOTHIC ZgSMALL LETTER VISIGOTHIC ZgCAPITAL LETTER THORN WITH STROKEgSMALL LETTER THORN WITH STR
  OKEgCAPITAL LETTER THORN WITH STROKE THROUGH DESCENDERgSMALL LETTER THORN WITH STROKE THROUGH DESC
  ENDERgCAPITAL LETTER VENDgSMALL LETTER VENDgCAPITAL LETTER ETgSMALL LETTER ETgCAPITAL LETTER ISgSM
  ALL LETTER ISgCAPITAL LETTER CONgSMALL LETTER CONaMODIFIER LETTER USaLATIN SMALL LETTER DUMtLUMtMU
  MtNUMtRUMgLETTER SMALL CAPITAL RUMgSMALL LETTER TUMtUMgCAPITAL LETTER INSULAR DgSMALL LETTER INSUL
  AR DgCAPITAL LETTER INSULAR FgSMALL LETTER INSULAR FgCAPITAL LETTER INSULAR GvTURNED INSULAR GgSMA
  LL LETTER TURNED INSULAR GgCAPITAL LETTER TURNED LgSMALL LETTER TURNED LgCAPITAL LETTER INSULAR Rg
  SMALL LETTER INSULAR RgCAPITAL LETTER INSULAR SgSMALL LETTER INSULAR SgCAPITAL LETTER INSULAR TgSM
  ALL LETTER INSULAR TaMODIFIER LETTER LOW CIRCUMFLEX ACCENTqCOLONqSHORT EQUALS SIGNaLATIN CAPITAL L
  ETTER SALTILLOgSMALL LETTER SALTILLOgCAPITAL LETTER TURNED HgSMALL LETTER L WITH RETROFLEX HOOK AN
  D BELTgLETTER SINOLOGICAL DOTgCAPITAL LETTER N WITH DESCENDERgSMALL LETTER N WITH DESCENDERgCAPITA
  L LETTER C WITH BARgSMALL LETTER C WITH BARz PALATAL HOOKtH WITH PALATAL HOOKgCAPITAL LETTER B WIT
  H FLOURISHgSMALL LETTER B WITH FLOURISHgCAPITAL LETTER F WITH STROKEgSMALL LETTER F WITH STROKEgCA
  PITAL LETTER VOLAPUK AEgSMALL LETTER VOLAPUK AEgCAPITAL LETTER VOLAPUK OEgSMALL LETTER VOLAPUK OEg
  CAPITAL LETTER VOLAPUK UEgSMALL LETTER VOLAPUK UEgCAPITAL LETTER G WITH OBLIQUE STROKEgSMALL LETTE
  R G WITH OBLIQUE STROKEgCAPITAL LETTER K WITH OBLIQUE STROKEgSMALL LETTER K WITH OBLIQUE STROKEgCA
  PITAL LETTER N WITH OBLIQUE STROKEgSMALL LETTER N WITH OBLIQUE STROKEgCAPITAL LETTER R WITH OBLIQU
  E STROKEgSMALL LETTER R WITH OBLIQUE STROKEgCAPITAL LETTER S WITH OBLIQUE STROKEgSMALL LETTER S WI
  TH OBLIQUE STROKEgCAPITAL LETTER H WITH HOOKvREVERSED OPEN EvSCRIPT GvL WITH BELTvSMALL CAPITAL Ig
  LETTER SMALL CAPITAL QgCAPITAL LETTER TURNED KzED TvJ WITH CROSSED-TAILvCHIvBETAgSMALL LETTER BETA
  gCAPITAL LETTER OMEGAgSMALL LETTER OMEGAgCAPITAL LETTER U WITH STROKEgSMALL LETTER U WITH STROKEgC
  APITAL LETTER GLOTTAL AgSMALL LETTER GLOTTAL AgCAPITAL LETTER GLOTTAL IgSMALL LETTER GLOTTAL IgCAP
  ITAL LETTER GLOTTAL UgSMALL LETTER GLOTTAL UgCAPITAL LETTER OLD POLISH OgSMALL LETTER OLD POLISH O
  gCAPITAL LETTER ANGLICANA WgSMALL LETTER ANGLICANA WgCAPITAL LETTER C WITH PALATAL HOOKvS WITH HOO
  KvZ WITH PALATAL HOOKvD WITH SHORT STROKE OVERLAYgSMALL LETTER D WITH SHORT STROKE OVERLAYgCAPITAL
   LETTER S WITH SHORT STROKE OVERLAYgSMALL LETTER S WITH SHORT STROKE OVERLAY+a7d0.gCAPITAL LETTER 
  CLOSED INSULAR GgSMALL LETTER CLOSED INSULAR G+a7d3.tDOUBLE THORN+a7d5.z WYNNgCAPITAL LETTER MIDDL
  E SCOTS SgSMALL LETTER MIDDLE SCOTS SgCAPITAL LETTER SIGMOID SgSMALL LETTER SIGMOID S+a7f2.aMODIFI
  ER LETTER CAPITAL CyFyQaLATIN CAPITAL LETTER REVERSED HALF HgSMALL LETTER REVERSED HALF HgEPIGRAPH
  IC LETTER SIDEWAYS IaMODIFIER LETTER CAPITAL H WITH STROKEqSMALL LIGATURE OEaLATIN LETTER SMALL CA
  PITAL TURNED MgEPIGRAPHIC LETTER REVERSED FzEVERSED PyINVERTED Mz LONGAyARCHAIC MaSYLOTI NAGRI LET
  TER AuInSIGN DVISVARAnLETTER UuEuOnSIGN HASANTAnLETTER KOvHOuGOvHOnSIGN ANUSVARAnLETTER COvHOuJOvH
  OuTTOwHOuDDOwHOuTOvHOuDOvHOuNOuPOvHOuBOvHOuMOuROuLOuRROuSOuHOnVOWEL SIGN AyIyUyEyOOnPOETRY MARK-1z
  2z3z4nSIGN ALTERNATE HASANTA+a830.aNORTH INDIC FRACTION ONE QUARTERzHALFvTHREE QUARTERSvONE SIXTEE
  NTHzEIGHTHvTHREE SIXTEENTHSmQUARTER MARKmPLACEHOLDER MARKmRUPEE MARKmQUANTITY MARK+a840.aPHAGS-PA 
  LETTER KArHAqGAqNGAqCArHAqJAqNYAqTArHAqDAqNAqPArHAqBAqMAqTSAsHAqDZAqWAqZHArAqSMALL AqYAqRAqLAqSHAr
  AqHAqAqIqUqEqOqQAqXAqFAqGGAqEEjSUBJOINED LETTER WAz YAjLETTER TTAsHAqDDAqNNAqALTERNATE YAqVOICELES
  S SHAvD HAqASPIRATED FAjSUBJOINED LETTER RAlPERFIXED LETTER RAjLETTER CANDRABINDUjSINGLE HEAD MARK
  jDOUBLE HEAD MARKjMARK SHADoDOUBLE SHAD+a880.aSAURASHTRA SIGN ANUSVARAqVISARGAlLETTER AtAsItIsUtUs
  VOCALIC Rz RRz Lz LLsEtEsAIsOtOsAUsKAtHAsGAtHAsNGAsCAtHAsJAtHAsNYAsTTAuHAsDDAuHAsNNAsTAtHAsDAtHAsN
  AsPAtHAsBAtHAsMAsYAsRAsLAsVAsSHAtSAtAsHAsLLAlCONSONANT SIGN HAARUlVOWEL SIGN AAwIxIwUxUwVOCALIC Rz
  ALIC RRzALIC LzALIC LLwExEwAIwOxOwAUlSIGN VIRAMAqCANDRABINDU+a8ce.lDANDAmOUBLE DANDAmIGIT ZEROrONE
  rTWOsHREErFOURsIVErSIXsEVENrEIGHTrNINE+a8e0.aCOMBINING DEVANAGARI DIGIT ZEROzT ONEzT TWOzT THREEzT
   FOURzT FIVEzT SIXzT SEVENzT EIGHTzT NINEvLETTER AzER UzER KAzER NAzER PAzER RAzER VIvSIGN AVAGRAH
  AaDEVANAGARI SIGN SPACING CANDRABINDUqCANDRABINDU VIRAMAqDOUBLE CANDRABINDU VIRAMAqCANDRABINDU TWO
  zDU THREEzDU AVAGRAHAqPUSHPIKAlGAP FILLERlCARETlHEADSTROKElSIGN SIDDHAMlJAIN OMlLETTER AYlVOWEL SI
  GN AYaKAYAH LI DIGIT ZEROpONEpTWOqHREEpFOURqIVEpSIXqEVENpEIGHTpNINEjLETTER KArHAqGAqNGAqSArHAqZAqN
  YAqTAqHTAqNAqPArHAqMAqDAqBAqRAqYAqLAqWAqTHAqHAqVAqCAqAqOEqIqOOjVOWEL UEpEpUpEEpOjTONE PLOPHUoCALYA
  t PLOPHUjSIGN CWIoSHYAaREJANG LETTER KAoGAoNGAoTAoDAoNAoPAoBAoMAoCAoJAoNYAoSAoRAoLAoYAoWAoHAoMBAoN
  GGApDApYJAoAhVOWEL SIGN IsUsEsAIsOsAUsEUtAhCONSONANT SIGN NGxwRwHhVIRAMA+a95f.hSECTION MARKaHANGUL
   CHOSEONG TIKEUT-MIEUMxPIEUPxSIOSxCIEUCqRIEUL-KIYEOKwSSANGKIYEOKwTIKEUTwSSANGTIKEUTwMIEUMwPIEUPwSS
  ANGPIEUPwKAPYEOUNPIEUPwSIOSwCIEUCwKHIEUKHqMIEUM-KIYEOKwTIKEUTwSIOSqPIEUP-SIOS-THIEUTHwKHIEUKHwHIEU
  HqSSANGSIOS-PIEUPqIEUNG-RIEULwHIEUHqSSANGCIEUC-HIEUHvTHIEUTHqPHIEUPH-HIEUHqHIEUH-SIOSqSSANGYEORINH
  IEUH+a980.aJAVANESE SIGN PANYANGGAoCECAKoLAYARoWIGNYANjLETTER AqI KAWIrrIqUqPA CEREKqNGA LELETz RA
  SWADIqEqAIqOqKAs SASAKtMURDAqGAs MURDAqNGAqCAs MURDAqJAqNYA MURDAqJA MAHAPRANAqNYAqTTAt MAHAPRANAq
  DDAt MAHAPRANAqNA MURDAqTAs MURDAqDAs MAHAPRANAqNAqPAs MURDAqBAs MURDAqMAqYAqRAs AGUNGqLAqWAqSA MU
  RDAuAHAPRANAsqHAjSIGN CECAK TELUjVOWEL SIGN TARUNGvOLONGuWULUy MELIKuSUKUy MENDUTuTALINGuDIRGA MUR
  EuPEPETjCONSONANT SIGN KERETyPENGKALyCAKRAjPANGKONjLEFT RERENGGANjRIGHT RERENGGANjPADA ANDAPoMADYA
  oLUHURoWINDUoPANGKAToLINGSApUNGSIoADEGs ADEGoPISELEHjTURNED PADA PISELEH+a9cf.jPANGRANGKEPjDIGIT Z
  EROpONEpTWOqHREEpFOURqIVEpSIXqEVENpEIGHTpNINE+a9de.jPADA TIRTA TUMETESoISEN-ISENaMYANMAR LETTER SH
  AN GHAuCHAuJHAuNNAuBHAiSIGN SHAN SAWiMODIFIER LETTER SHAN REDUPLICATIONiLETTER TAI LAING NYAzFAzGA
  zGHAzJAzJHAzDDAzDDHAzNNAiTAI LAING DIGIT ZEROyONEyTWOzHREEyFOURzIVEySIXzEVENyEIGHTyNINEiLETTER TAI
   LAING LLAzDAzDHAzBAzBHA+aa00.aCHAM LETTER AmImUmEmAImOmKAnHAmGAnHAmNGUEoAmCHAoHAmJAnHAmNHUEoAoJAm
  TAnHAmDAnHAmNUEnAmDDAmPAnPAnHAmBAnHAmMUEnAmBBAmYAmRAmLAmVAmSSAnAmHAfVOWEL SIGN AAqIrIqEIqUqOErqAIr
  UqUEfCONSONANT SIGN YAuRAuLAuWA+aa40.fLETTER FINAL KsGsNGfCONSONANT SIGN FINAL NGfLETTER FINAL CHs
  TsNsPsYsRsLsSSfCONSONANT SIGN FINAL Mz H+aa50.fDIGIT ZEROlONElTWOmHREElFOURmIVElSIXmEVENlEIGHTlNIN
  E+aa5c.fPUNCTUATION SPIRALrDANDAsOUBLE DANDArTRIPLE DANDAaMYANMAR LETTER KHAMTI GAwCAxHAwJAxHAwNYA
  wTTAyHAwDDAyHAxHAwNAwSAwHAxHAwFAiMODIFIER LETTER KHAMTI REDUPLICATIONiLETTER KHAMTI XAwZAwRAjOGOGR
  AM KHAMTI OAYyQNyHMiSYMBOL AITON EXCLAMATIONvONEvTWOiLETTER AITON RAiSIGN PAO KAREN TONEnTAI LAING
   TONE-2zNE-5iLETTER SHWE PALAUNG CHAzNG SHAaTAI VIET LETTER LOW KOqHIGH KOqLOW KHOqHIGH KHOqLOW KH
  HOqHIGH KHHOqLOW GOqHIGH GOqLOW NGOqHIGH NGOqLOW COqHIGH COqLOW CHOqHIGH CHOqLOW SOqHIGH SOqLOW NY
  OqHIGH NYOqLOW DOqHIGH DOqLOW TOqHIGH TOqLOW THOqHIGH THOqLOW NOqHIGH NOqLOW BOqHIGH BOqLOW POqHIG
  H POqLOW PHOqHIGH PHOqLOW FOqHIGH FOqLOW MOqHIGH MOqLOW YOqHIGH YOqLOW ROqHIGH ROqLOW LOqHIGH LOqL
  OW VOqHIGH VOqLOW HOqHIGH HOqLOW OqHIGH OjMAI KANGjVOWEL AApIpUEqpEpOjMAI KHITjVOWEL IApUEAqApAUEq
  YqNqMjTONE MAI EKsNUENGsTHOsSONG+aadb.jSYMBOL KONqNUENGqSAMqHO HOIqKOI KOIaMEETEI MAYEK LETTER EuO
  uCHAuNYAuTTAwHAuDDAwHAuNNAuSHAvSAnVOWEL SIGN IIyUUyAAIzUzAUnCHEIKHANnAHANG KHUDAMoNJInSYLLABLE REP
  ETITION MARKnWORD REPETITION MARKnVOWEL SIGN VISARGAoIRAMA+ab01.aETHIOPIC SYLLABLE TTHUvIvAAvEEwvO
  +ab09.sDDHUvIvAAvEEwvO+ab11.tZUuIuAAuEEvuO+ab20.sCCHHAwUwIwAAwEExwO+ab28.sBBAuUuIuAAuEEvuO+ab30.aL
  ATIN SMALL LETTER BARRED ALPHAtA REVERSED-SCHWAtBLACKLETTER EuARRED EtE WITH FLOURISHtLENIS FtSCRI
  PT G WITH CROSSED-TAILtL WITH INVERTED LAZY Sz DOUBLE MIDDLE TILDEz MIDDLE RINGtM WITH CROSSED-TAI
  LtN WITH CROSSED-TAILtENG WITH CROSSED-TAILtBLACKLETTER OzETTER O WITH STROKEtOPEN O WITH STROKEtI
  NVERTED OEtTURNED OE WITH STROKEz OE WITH HORIZONTAL STROKEz O OPEN-Oz O OPEN-O WITH STROKEtSTIRRU
  P RgLETTER SMALL CAPITAL R WITH RIGHT LEGgSMALL LETTER R WITHOUT HANDLEtDOUBLE RtR WITH CROSSED-TA
  ILtDOUBLE R WITH CROSSED-TAILtSCRIPT Rz R WITH RINGtBASELINE ESHtU WITH SHORT RIGHT LEGvBAR WITH S
  HORT RIGHT LEGuItTURNED UItU WITH LEFT HOOKtCHIw WITH LOW RIGHT RINGzTH LOW LEFT SERIFtX WITH LOW 
  RIGHT RINGz LONG LEFT LEGz LONG LEFT LEG AND LOW RIGHT RINGz LONG LEFT LEG WITH SERIFtY WITH SHORT
   RIGHT LEGaMODIFIER BREVE WITH INVERTED BREVEjLETTER SMALL HENGwL WITH INVERTED LAZY SzITH MIDDLE 
  TILDEwU WITH LEFT HOOKaLATIN SMALL LETTER SAKHA YATtIOTIFIED EtOPEN OEtUOtINVERTED ALPHAaGREEK LET
  TER SMALL CAPITAL OMEGAaLATIN SMALL LETTER DZ DIGRAPH WITH RETROFLEX HOOKtTS DIGRAPH WITH RETROFLE
  X HOOKuURNED R WITH MIDDLE TILDEaMODIFIER LETTER SMALL TURNED WqLEFT TACKqRIGHT TACK+ab70.aCHEROKE
  E SMALL LETTER AwEwIwOwUwVwGAwKAwGExIxOxUxVwHAxExIxOxUxVwLAxExIxOxUxVwMAxExIxOxUwNAwHNAwNAHxExIxOx
  UxVwQUAyEyIyOyUyVwSAxxExIxOxUxVwDAwTAwDEwTEwDIwTIwDOxUxVxLAwTLAyEyIyOyUyVxSAyEyIyOyUyVwWAxExIxOxUx
  VwYAaMEETEI MAYEK LETTER KOKuSAMuLAIuMITuPAuNAuCHILuTILuKHOUuNGOUuTHOUuWAIuYANGuHUKuUNuIuPHAMuATIY
  AuGOKuJHAMuRAIuBAuJILuDILuGHOUuDHOUuBHAMuKOK LONSUMuLAI LONSUMuMIT LONSUMuPA LONSUMuNA LONSUMuTIL 
  LONSUMuNGOU LONSUMuI LONSUMnVOWEL SIGN ONAPyINAPyANAPyYENAPySOUNAPyUNAPyCHEINAPyNUNGnCHEIKHEInLUM 
  IYEKnAPUN IYEK+abf0.nDIGIT ZEROtONEtTWOuHREEtFOURuIVEtSIXuEVENtEIGHTtNINE+d7b0.aHANGUL JUNGSEONG O
  -YEOtO-IrYO-AvEuEOrU-YEOtI-IrYU-AEuOrEU-AuEOvuOrI-YA-OvEuEOvtO-ItYOuUtIrARAEA-AxE+d7cb.iONGSEONG N
  IEUN-RIEULxCHIEUCHrSSANGTIKEUTzEUT-PIEUPrTIKEUT-PIEUPySIOSzIOS-KIYEOKyCIEUCzHIEUCHyTHIEUTHrRIEUL-S
  SANGKIYEOKxKIYEOK-HIEUHrSSANGRIEUL-KHIEUKHrRIEUL-MIEUM-HIEUHxPIEUP-TIKEUTzEUP-PHIEUPHxYESIEUNGzORI
  NHIEUH-HIEUHrKAPYEOUNRIEULrMIEUM-NIEUNxSSANGNIEUNrSSANGMIEUMrMIEUM-PIEUP-SIOSxCIEUCrPIEUP-TIKEUTxR
  IEUL-PHIEUPHxMIEUMrSSANGPIEUPrPIEUP-SIOS-TIKEUTxCIEUCyHIEUCHrSIOS-MIEUMwKAPYEOUNPIEUPsSANGSIOS-KIY
  EOKzS-TIKEUTsIOS-PANSIOSwCIEUCxHIEUCHwTHIEUTHwHIEUHrPANSIOS-PIEUPzKAPYEOUNPIEUPrYESIEUNG-MIEUMz-HI
  EUHrCIEUC-PIEUPxSSANGPIEUPrSSANGCIEUCrPHIEUPH-SIOSzTHIEUTH+fb00.aLATIN SMALL LIGATURE FFwIwLwFIxLv
  LONG S TvST+fb13.aARMENIAN SMALL LIGATURE MEN NOWzEN ECHzEN INIyVEW NOWyMEN XEH+fb1d.aHEBREW LETTE
  R YOD WITH HIRIQhPOINT JUDEO-SPANISH VARIKAhLIGATURE YIDDISH YOD YOD PATAHiETTER ALTERNATIVE AYINo
  WIDE ALEFtDALETtHEtKAFtLAMEDtFINAL MEMtRESHtTAVoALTERNATIVE PLUS SIGNoSHIN WITH SHIN DOTzIN DOTyDA
  GESH AND SHIN DOTzAGESH AND SIN DOToALEF WITH PATAHyQAMATSyMAPIQoBET WITH DAGESHoGIMEL WITH DAGESH
  oDALET WITH DAGESHoHE WITH MAPIQoVAV WITH DAGESHoZAYIN WITH DAGESH+fb38.oTET WITH DAGESHoYOD WITH 
  DAGESHoFINAL KAF WITH DAGESHoKAF WITH DAGESHoLAMED WITH DAGESH+fb3e.oMEM WITH DAGESH+fb40.oNUN WIT
  H DAGESHoSAMEKH WITH DAGESH+fb43.oFINAL PE WITH DAGESHoPE WITH DAGESH+fb46.oTSADI WITH DAGESHoQOF 
  WITH DAGESHoRESH WITH DAGESHoSHIN WITH DAGESHoTAV WITH DAGESHoVAV WITH HOLAMoBET WITH RAFEoKAF WIT
  H RAFEoPE WITH RAFEiIGATURE ALEF LAMEDaARABIC LETTER ALEF WASLA ISOLATED FORMzFINAL FORMoBEEH ISOL
  ATED FORMtFINAL FORMtINITIAL FORMtMEDIAL FORMoPEH ISOLATED FORMsFINAL FORMsINITIAL FORMsMEDIAL FOR
  MoBEHEH ISOLATED FORMuFINAL FORMuINITIAL FORMuMEDIAL FORMoTTEHEH ISOLATED FORMvFINAL FORMvINITIAL 
  FORMvMEDIAL FORMpEHEH ISOLATED FORMuFINAL FORMuINITIAL FORMuMEDIAL FORMpTEH ISOLATED FORMtFINAL FO
  RMtINITIAL FORMtMEDIAL FORMoVEH ISOLATED FORMsFINAL FORMsINITIAL FORMsMEDIAL FORMoPEHEH ISOLATED F
  ORMuFINAL FORMuINITIAL FORMuMEDIAL FORMoDYEH ISOLATED FORMtFINAL FORMtINITIAL FORMtMEDIAL FORMoNYE
  H ISOLATED FORMtFINAL FORMtINITIAL FORMtMEDIAL FORMoTCHEH ISOLATED FORMuFINAL FORMuINITIAL FORMuME
  DIAL FORMtEH ISOLATED FORMwFINAL FORMwINITIAL FORMwMEDIAL FORMoDDAHAL ISOLATED FORMvFINAL FORMpAHA
  L ISOLATED FORMuFINAL FORMpUL ISOLATED FORMsFINAL FORMpDAL ISOLATED FORMtFINAL FORMoJEH ISOLATED F
  ORMsFINAL FORMoRREH ISOLATED FORMtFINAL FORMoKEHEH ISOLATED FORMuFINAL FORMuINITIAL FORMuMEDIAL FO
  RMoGAF ISOLATED FORMsFINAL FORMsINITIAL FORMsMEDIAL FORMpUEH ISOLATED FORMtFINAL FORMtINITIAL FORM
  tMEDIAL FORMoNGOEH ISOLATED FORMuFINAL FORMuINITIAL FORMuMEDIAL FORMpOON GHUNNA ISOLATED FORMz FIN
  AL FORMoRNOON ISOLATED FORMuFINAL FORMuINITIAL FORMuMEDIAL FORMoHEH WITH YEH ABOVE ISOLATED FORMzH
   ABOVE FINAL FORMsGOAL ISOLATED FORMxFINAL FORMxINITIAL FORMxMEDIAL FORMsDOACHASHMEE ISOLATED FORM
  zHMEE FINAL FORMzHMEE INITIAL FORMzHMEE MEDIAL FORMoYEH BARREE ISOLATED FORMzFINAL FORMzWITH HAMZA
   ABOVE ISOLATED FORMzWITH HAMZA ABOVE FINAL FORMhSYMBOL DOT ABOVEsBELOWoTWO DOTS ABOVExBELOWpHREE 
  DOTS ABOVEzBELOWzPOINTING DOWNWARDS ABOVEzPOINTING DOWNWARDS BELOWoFOUR DOTS ABOVEyBELOWoDOUBLE VE
  RTICAL BAR BELOWoTWO DOTS VERTICALLY ABOVEzRTICALLY BELOWoRINGoSMALL TAH ABOVEyBELOWoWASLA ABOVE+f
  bd3.hLETTER NG ISOLATED FORMrFINAL FORMrINITIAL FORMrMEDIAL FORMoU ISOLATED FORMqFINAL FORMoOE ISO
  LATED FORMrFINAL FORMoYU ISOLATED FORMrFINAL FORMoU WITH HAMZA ABOVE ISOLATED FORMoVE ISOLATED FOR
  MrFINAL FORMoKIRGHIZ OE ISOLATED FORMzFINAL FORMwYU ISOLATED FORMzFINAL FORMoE ISOLATED FORMqFINAL
   FORMqINITIAL FORMqMEDIAL FORMoUIGHUR KAZAKH KIRGHIZ ALEF MAKSURA INITIAL FORMzKH KIRGHIZ ALEF MAK
  SURA MEDIAL FORMiIGATURE YEH WITH HAMZA ABOVE WITH ALEF ISOLATED FORMzHAMZA ABOVE WITH ALEF FINAL 
  FORMzHAMZA ABOVE WITH AE ISOLATED FORMzHAMZA ABOVE WITH AE FINAL FORMzHAMZA ABOVE WITH WAW ISOLATE
  D FORMzHAMZA ABOVE WITH WAW FINAL FORMzHAMZA ABOVE WITH U ISOLATED FORMzHAMZA ABOVE WITH U FINAL F
  ORMzHAMZA ABOVE WITH OE ISOLATED FORMzHAMZA ABOVE WITH OE FINAL FORMzHAMZA ABOVE WITH YU ISOLATED 
  FORMzHAMZA ABOVE WITH YU FINAL FORMzHAMZA ABOVE WITH E ISOLATED FORMzHAMZA ABOVE WITH E FINAL FORM
  zHAMZA ABOVE WITH E INITIAL FORMqUIGHUR KIRGHIZ YEH WITH HAMZA ABOVE WITH ALEF MAKSURA ISOLATED FO
  RMzRGHIZ YEH WITH HAMZA ABOVE WITH ALEF MAKSURA FINAL FORMzRGHIZ YEH WITH HAMZA ABOVE WITH ALEF MA
  KSURA INITIAL FORMiETTER FARSI YEH ISOLATED FORMyFINAL FORMyINITIAL FORMyMEDIAL FORMiIGATURE YEH W
  ITH HAMZA ABOVE WITH JEEM ISOLATED FORMzHAMZA ABOVE WITH HAH ISOLATED FORMzHAMZA ABOVE WITH MEEM I
  SOLATED FORMzHAMZA ABOVE WITH ALEF MAKSURA ISOLATED FORMzHAMZA ABOVE WITH YEH ISOLATED FORMqBEH WI
  TH JEEM ISOLATED FORMzHAH ISOLATED FORMzKHAH ISOLATED FORMzMEEM ISOLATED FORMzALEF MAKSURA ISOLATE
  D FORMzYEH ISOLATED FORMqTEH WITH JEEM ISOLATED FORMzHAH ISOLATED FORMzKHAH ISOLATED FORMzMEEM ISO
  LATED FORMzALEF MAKSURA ISOLATED FORMzYEH ISOLATED FORMrHEH WITH JEEM ISOLATED FORMz MEEM ISOLATED
   FORMz ALEF MAKSURA ISOLATED FORMz YEH ISOLATED FORMqJEEM WITH HAH ISOLATED FORMz MEEM ISOLATED FO
  RMqHAH WITH JEEM ISOLATED FORMzMEEM ISOLATED FORMqKHAH WITH JEEM ISOLATED FORMz HAH ISOLATED FORMz
   MEEM ISOLATED FORMqSEEN WITH JEEM ISOLATED FORMz HAH ISOLATED FORMz KHAH ISOLATED FORMz MEEM ISOL
  ATED FORMrAD WITH HAH ISOLATED FORMzMEEM ISOLATED FORMqDAD WITH JEEM ISOLATED FORMzHAH ISOLATED FO
  RMzKHAH ISOLATED FORMzMEEM ISOLATED FORMqTAH WITH HAH ISOLATED FORMzMEEM ISOLATED FORMqZAH WITH ME
  EM ISOLATED FORMqAIN WITH JEEM ISOLATED FORMzMEEM ISOLATED FORMqGHAIN WITH JEEM ISOLATED FORMzH ME
  EM ISOLATED FORMqFEH WITH JEEM ISOLATED FORMzHAH ISOLATED FORMzKHAH ISOLATED FORMzMEEM ISOLATED FO
  RMzALEF MAKSURA ISOLATED FORMzYEH ISOLATED FORMqQAF WITH HAH ISOLATED FORMzMEEM ISOLATED FORMzALEF
   MAKSURA ISOLATED FORMzYEH ISOLATED FORMqKAF WITH ALEF ISOLATED FORMzJEEM ISOLATED FORMzHAH ISOLAT
  ED FORMzKHAH ISOLATED FORMzLAM ISOLATED FORMzMEEM ISOLATED FORMzALEF MAKSURA ISOLATED FORMzYEH ISO
  LATED FORMqLAM WITH JEEM ISOLATED FORMzHAH ISOLATED FORMzKHAH ISOLATED FORMzMEEM ISOLATED FORMzALE
  F MAKSURA ISOLATED FORMzYEH ISOLATED FORMqMEEM WITH JEEM ISOLATED FORMz HAH ISOLATED FORMz KHAH IS
  OLATED FORMz MEEM ISOLATED FORMz ALEF MAKSURA ISOLATED FORMz YEH ISOLATED FORMqNOON WITH JEEM ISOL
  ATED FORMz HAH ISOLATED FORMz KHAH ISOLATED FORMz MEEM ISOLATED FORMz ALEF MAKSURA ISOLATED FORMz 
  YEH ISOLATED FORMqHEH WITH JEEM ISOLATED FORMzMEEM ISOLATED FORMzALEF MAKSURA ISOLATED FORMzYEH IS
  OLATED FORMqYEH WITH JEEM ISOLATED FORMzHAH ISOLATED FORMzKHAH ISOLATED FORMzMEEM ISOLATED FORMzAL
  EF MAKSURA ISOLATED FORMzYEH ISOLATED FORMqTHAL WITH SUPERSCRIPT ALEF ISOLATED FORMqREH WITH SUPER
  SCRIPT ALEF ISOLATED FORMqALEF MAKSURA WITH SUPERSCRIPT ALEF ISOLATED FORMqSHADDA WITH DAMMATAN IS
  OLATED FORMzTH KASRATAN ISOLATED FORMzTH FATHA ISOLATED FORMzTH DAMMA ISOLATED FORMzTH KASRA ISOLA
  TED FORMzTH SUPERSCRIPT ALEF ISOLATED FORMqYEH WITH HAMZA ABOVE WITH REH FINAL FORMzHAMZA ABOVE WI
  TH ZAIN FINAL FORMzHAMZA ABOVE WITH MEEM FINAL FORMzHAMZA ABOVE WITH NOON FINAL FORMzHAMZA ABOVE W
  ITH ALEF MAKSURA FINAL FORMzHAMZA ABOVE WITH YEH FINAL FORMqBEH WITH REH FINAL FORMzZAIN FINAL FOR
  MzMEEM FINAL FORMzNOON FINAL FORMzALEF MAKSURA FINAL FORMzYEH FINAL FORMqTEH WITH REH FINAL FORMzZ
  AIN FINAL FORMzMEEM FINAL FORMzNOON FINAL FORMzALEF MAKSURA FINAL FORMzYEH FINAL FORMrHEH WITH REH
   FINAL FORMz ZAIN FINAL FORMz MEEM FINAL FORMz NOON FINAL FORMz ALEF MAKSURA FINAL FORMz YEH FINAL
   FORMqFEH WITH ALEF MAKSURA FINAL FORMzYEH FINAL FORMqQAF WITH ALEF MAKSURA FINAL FORMzYEH FINAL F
  ORMqKAF WITH ALEF FINAL FORMzLAM FINAL FORMzMEEM FINAL FORMzALEF MAKSURA FINAL FORMzYEH FINAL FORM
  qLAM WITH MEEM FINAL FORMzALEF MAKSURA FINAL FORMzYEH FINAL FORMqMEEM WITH ALEF FINAL FORMz MEEM F
  INAL FORMqNOON WITH REH FINAL FORMz ZAIN FINAL FORMz MEEM FINAL FORMz NOON FINAL FORMz ALEF MAKSUR
  A FINAL FORMz YEH FINAL FORMqALEF MAKSURA WITH SUPERSCRIPT ALEF FINAL FORMqYEH WITH REH FINAL FORM
  zZAIN FINAL FORMzMEEM FINAL FORMzNOON FINAL FORMzALEF MAKSURA FINAL FORMzYEH FINAL FORMzHAMZA ABOV
  E WITH JEEM INITIAL FORMzHAMZA ABOVE WITH HAH INITIAL FORMzHAMZA ABOVE WITH KHAH INITIAL FORMzHAMZ
  A ABOVE WITH MEEM INITIAL FORMzHAMZA ABOVE WITH HEH INITIAL FORMqBEH WITH JEEM INITIAL FORMzHAH IN
  ITIAL FORMzKHAH INITIAL FORMzMEEM INITIAL FORMzHEH INITIAL FORMqTEH WITH JEEM INITIAL FORMzHAH INI
  TIAL FORMzKHAH INITIAL FORMzMEEM INITIAL FORMzHEH INITIAL FORMrHEH WITH MEEM INITIAL FORMqJEEM WIT
  H HAH INITIAL FORMz MEEM INITIAL FORMqHAH WITH JEEM INITIAL FORMzMEEM INITIAL FORMqKHAH WITH JEEM 
  INITIAL FORMz MEEM INITIAL FORMqSEEN WITH JEEM INITIAL FORMz HAH INITIAL FORMz KHAH INITIAL FORMz 
  MEEM INITIAL FORMrAD WITH HAH INITIAL FORMzKHAH INITIAL FORMzMEEM INITIAL FORMqDAD WITH JEEM INITI
  AL FORMzHAH INITIAL FORMzKHAH INITIAL FORMzMEEM INITIAL FORMqTAH WITH HAH INITIAL FORMqZAH WITH ME
  EM INITIAL FORMqAIN WITH JEEM INITIAL FORMzMEEM INITIAL FORMqGHAIN WITH JEEM INITIAL FORMzH MEEM I
  NITIAL FORMqFEH WITH JEEM INITIAL FORMzHAH INITIAL FORMzKHAH INITIAL FORMzMEEM INITIAL FORMqQAF WI
  TH HAH INITIAL FORMzMEEM INITIAL FORMqKAF WITH JEEM INITIAL FORMzHAH INITIAL FORMzKHAH INITIAL FOR
  MzLAM INITIAL FORMzMEEM INITIAL FORMqLAM WITH JEEM INITIAL FORMzHAH INITIAL FORMzKHAH INITIAL FORM
  zMEEM INITIAL FORMzHEH INITIAL FORMqMEEM WITH JEEM INITIAL FORMz HAH INITIAL FORMz KHAH INITIAL FO
  RMz MEEM INITIAL FORMqNOON WITH JEEM INITIAL FORMz HAH INITIAL FORMz KHAH INITIAL FORMz MEEM INITI
  AL FORMz HEH INITIAL FORMqHEH WITH JEEM INITIAL FORMzMEEM INITIAL FORMzSUPERSCRIPT ALEF INITIAL FO
  RMqYEH WITH JEEM INITIAL FORMzHAH INITIAL FORMzKHAH INITIAL FORMzMEEM INITIAL FORMzHEH INITIAL FOR
  MzHAMZA ABOVE WITH MEEM MEDIAL FORMzHAMZA ABOVE WITH HEH MEDIAL FORMqBEH WITH MEEM MEDIAL FORMzHEH
   MEDIAL FORMqTEH WITH MEEM MEDIAL FORMzHEH MEDIAL FORMrHEH WITH MEEM MEDIAL FORMz HEH MEDIAL FORMq
  SEEN WITH MEEM MEDIAL FORMz HEH MEDIAL FORMrHEEN WITH MEEM MEDIAL FORMzH HEH MEDIAL FORMqKAF WITH 
  LAM MEDIAL FORMzMEEM MEDIAL FORMqLAM WITH MEEM MEDIAL FORMqNOON WITH MEEM MEDIAL FORMz HEH MEDIAL 
  FORMqYEH WITH MEEM MEDIAL FORMzHEH MEDIAL FORMqSHADDA WITH FATHA MEDIAL FORMzTH DAMMA MEDIAL FORMz
  TH KASRA MEDIAL FORMqTAH WITH ALEF MAKSURA ISOLATED FORMzYEH ISOLATED FORMqAIN WITH ALEF MAKSURA I
  SOLATED FORMzYEH ISOLATED FORMqGHAIN WITH ALEF MAKSURA ISOLATED FORMzH YEH ISOLATED FORMqSEEN WITH
   ALEF MAKSURA ISOLATED FORMz YEH ISOLATED FORMrHEEN WITH ALEF MAKSURA ISOLATED FORMzH YEH ISOLATED
   FORMqHAH WITH ALEF MAKSURA ISOLATED FORMzYEH ISOLATED FORMqJEEM WITH ALEF MAKSURA ISOLATED FORMz 
  YEH ISOLATED FORMqKHAH WITH ALEF MAKSURA ISOLATED FORMz YEH ISOLATED FORMqSAD WITH ALEF MAKSURA IS
  OLATED FORMzYEH ISOLATED FORMqDAD WITH ALEF MAKSURA ISOLATED FORMzYEH ISOLATED FORMqSHEEN WITH JEE
  M ISOLATED FORMzH HAH ISOLATED FORMzH KHAH ISOLATED FORMzH MEEM ISOLATED FORMzH REH ISOLATED FORMr
  EEN WITH REH ISOLATED FORMrAD WITH REH ISOLATED FORMqDAD WITH REH ISOLATED FORMqTAH WITH ALEF MAKS
  URA FINAL FORMzYEH FINAL FORMqAIN WITH ALEF MAKSURA FINAL FORMzYEH FINAL FORMqGHAIN WITH ALEF MAKS
  URA FINAL FORMzH YEH FINAL FORMqSEEN WITH ALEF MAKSURA FINAL FORMz YEH FINAL FORMrHEEN WITH ALEF M
  AKSURA FINAL FORMzH YEH FINAL FORMqHAH WITH ALEF MAKSURA FINAL FORMzYEH FINAL FORMqJEEM WITH ALEF 
  MAKSURA FINAL FORMz YEH FINAL FORMqKHAH WITH ALEF MAKSURA FINAL FORMz YEH FINAL FORMqSAD WITH ALEF
   MAKSURA FINAL FORMzYEH FINAL FORMqDAD WITH ALEF MAKSURA FINAL FORMzYEH FINAL FORMqSHEEN WITH JEEM
   FINAL FORMzH HAH FINAL FORMzH KHAH FINAL FORMzH MEEM FINAL FORMzH REH FINAL FORMrEEN WITH REH FIN
  AL FORMrAD WITH REH FINAL FORMqDAD WITH REH FINAL FORMqSHEEN WITH JEEM INITIAL FORMzH HAH INITIAL 
  FORMzH KHAH INITIAL FORMzH MEEM INITIAL FORMrEEN WITH HEH INITIAL FORMrHEEN WITH HEH INITIAL FORMq
  TAH WITH MEEM INITIAL FORMqSEEN WITH JEEM MEDIAL FORMz HAH MEDIAL FORMz KHAH MEDIAL FORMrHEEN WITH
   JEEM MEDIAL FORMzH HAH MEDIAL FORMzH KHAH MEDIAL FORMqTAH WITH MEEM MEDIAL FORMqZAH WITH MEEM MED
  IAL FORMqALEF WITH FATHATAN FINAL FORMz FATHATAN ISOLATED FORMaORNATE LEFT PARENTHESIShRIGHT PAREN
  THESISaARABIC LIGATURE RAHIMAHU ALLAAHsDI ALLAAHU ANHzAHU ANHAAzAHU ANHUMzAHU ANHUMAAzAHU ANHUNNAq
  SALLALLAAHU ALAYHI WA-AALIHqALAYHI AS-SALAAMwM AS-SALAAMxAA AS-SALAAMw AS-SALAATU WAS-SALAAMqQUDDI
  SA SIRRAHqSALLALLAHU ALAYHI WAAALIHEE WA-SALLAMqALAYHAA AS-SALAAMqTABAARAKA WA-TAAALAAqRAHIMAHUM A
  LLAAHqTEH WITH JEEM WITH MEEM INITIAL FORMzHAH WITH JEEM FINAL FORMzHAH WITH JEEM INITIAL FORMzHAH
   WITH MEEM INITIAL FORMzKHAH WITH MEEM INITIAL FORMzMEEM WITH JEEM INITIAL FORMzMEEM WITH HAH INIT
  IAL FORMzMEEM WITH KHAH INITIAL FORMqJEEM WITH MEEM WITH HAH FINAL FORMz MEEM WITH HAH INITIAL FOR
  MqHAH WITH MEEM WITH YEH FINAL FORMzMEEM WITH ALEF MAKSURA FINAL FORMqSEEN WITH HAH WITH JEEM INIT
  IAL FORMz JEEM WITH HAH INITIAL FORMz JEEM WITH ALEF MAKSURA FINAL FORMz MEEM WITH HAH FINAL FORMz
   MEEM WITH HAH INITIAL FORMz MEEM WITH JEEM INITIAL FORMz MEEM WITH MEEM FINAL FORMz MEEM WITH MEE
  M INITIAL FORMrAD WITH HAH WITH HAH FINAL FORMzHAH WITH HAH INITIAL FORMzMEEM WITH MEEM FINAL FORM
  rHEEN WITH HAH WITH MEEM FINAL FORMzH HAH WITH MEEM INITIAL FORMzH JEEM WITH YEH FINAL FORMzH MEEM
   WITH KHAH FINAL FORMzH MEEM WITH KHAH INITIAL FORMzH MEEM WITH MEEM FINAL FORMzH MEEM WITH MEEM I
  NITIAL FORMqDAD WITH HAH WITH ALEF MAKSURA FINAL FORMzKHAH WITH MEEM FINAL FORMzKHAH WITH MEEM INI
  TIAL FORMqTAH WITH MEEM WITH HAH FINAL FORMzMEEM WITH HAH INITIAL FORMzMEEM WITH MEEM INITIAL FORM
  zMEEM WITH YEH FINAL FORMqAIN WITH JEEM WITH MEEM FINAL FORMzMEEM WITH MEEM FINAL FORMzMEEM WITH M
  EEM INITIAL FORMzMEEM WITH ALEF MAKSURA FINAL FORMqGHAIN WITH MEEM WITH MEEM FINAL FORMzH MEEM WIT
  H YEH FINAL FORMzH MEEM WITH ALEF MAKSURA FINAL FORMqFEH WITH KHAH WITH MEEM FINAL FORMzKHAH WITH 
  MEEM INITIAL FORMqQAF WITH MEEM WITH HAH FINAL FORMzMEEM WITH MEEM FINAL FORMqLAM WITH HAH WITH ME
  EM FINAL FORMzHAH WITH YEH FINAL FORMzHAH WITH ALEF MAKSURA FINAL FORMzJEEM WITH JEEM INITIAL FORM
  zJEEM WITH JEEM FINAL FORMzKHAH WITH MEEM FINAL FORMzKHAH WITH MEEM INITIAL FORMzMEEM WITH HAH FIN
  AL FORMzMEEM WITH HAH INITIAL FORMqMEEM WITH HAH WITH JEEM INITIAL FORMz HAH WITH MEEM INITIAL FOR
  Mz HAH WITH YEH FINAL FORMz JEEM WITH HAH INITIAL FORMz JEEM WITH MEEM INITIAL FORMz KHAH WITH JEE
  M INITIAL FORMz KHAH WITH MEEM INITIAL FORM+fd92.z JEEM WITH KHAH INITIAL FORMqHEH WITH MEEM WITH 
  JEEM INITIAL FORMzMEEM WITH MEEM INITIAL FORMqNOON WITH HAH WITH MEEM INITIAL FORMz HAH WITH ALEF 
  MAKSURA FINAL FORMz JEEM WITH MEEM FINAL FORMz JEEM WITH MEEM INITIAL FORMz JEEM WITH ALEF MAKSURA
   FINAL FORMz MEEM WITH YEH FINAL FORMz MEEM WITH ALEF MAKSURA FINAL FORMqYEH WITH MEEM WITH MEEM F
  INAL FORMzMEEM WITH MEEM INITIAL FORMqBEH WITH KHAH WITH YEH FINAL FORMqTEH WITH JEEM WITH YEH FIN
  AL FORMzJEEM WITH ALEF MAKSURA FINAL FORMzKHAH WITH YEH FINAL FORMzKHAH WITH ALEF MAKSURA FINAL FO
  RMzMEEM WITH YEH FINAL FORMzMEEM WITH ALEF MAKSURA FINAL FORMqJEEM WITH MEEM WITH YEH FINAL FORMz 
  HAH WITH ALEF MAKSURA FINAL FORMz MEEM WITH ALEF MAKSURA FINAL FORMqSEEN WITH KHAH WITH ALEF MAKSU
  RA FINAL FORMrAD WITH HAH WITH YEH FINAL FORMrHEEN WITH HAH WITH YEH FINAL FORMqDAD WITH HAH WITH 
  YEH FINAL FORMqLAM WITH JEEM WITH YEH FINAL FORMzMEEM WITH YEH FINAL FORMqYEH WITH HAH WITH YEH FI
  NAL FORMzJEEM WITH YEH FINAL FORMzMEEM WITH YEH FINAL FORMqMEEM WITH MEEM WITH YEH FINAL FORMqQAF 
  WITH MEEM WITH YEH FINAL FORMqNOON WITH HAH WITH YEH FINAL FORMqQAF WITH MEEM WITH HAH INITIAL FOR
  MqLAM WITH HAH WITH MEEM INITIAL FORMqAIN WITH MEEM WITH YEH FINAL FORMqKAF WITH MEEM WITH YEH FIN
  AL FORMqNOON WITH JEEM WITH HAH INITIAL FORMqMEEM WITH KHAH WITH YEH FINAL FORMqLAM WITH JEEM WITH
   MEEM INITIAL FORMqKAF WITH MEEM WITH MEEM FINAL FORMqLAM WITH JEEM WITH MEEM FINAL FORMqNOON WITH
   JEEM WITH HAH FINAL FORMqJEEM WITH HAH WITH YEH FINAL FORMqHAH WITH JEEM WITH YEH FINAL FORMqMEEM
   WITH JEEM WITH YEH FINAL FORMqFEH WITH MEEM WITH YEH FINAL FORMqBEH WITH HAH WITH YEH FINAL FORMq
  KAF WITH MEEM WITH MEEM INITIAL FORMqAIN WITH JEEM WITH MEEM INITIAL FORMqSAD WITH MEEM WITH MEEM 
  INITIAL FORMrEEN WITH KHAH WITH YEH FINAL FORMqNOON WITH JEEM WITH YEH FINAL FORM+fdcf.qSALAAMUHU 
  ALAYNAA+fdf0.tLA USED AS KORANIC STOP SIGN ISOLATED FORMqQALA USED AS KORANIC STOP SIGN ISOLATED F
  ORMqALLAH ISOLATED FORMrKBAR ISOLATED FORMqMOHAMMAD ISOLATED FORMqSALAM ISOLATED FORMqRASOUL ISOLA
  TED FORMqALAYHE ISOLATED FORMqWASALLAM ISOLATED FORMqSALLA ISOLATED FORMvLLAHOU ALAYHE WASALLAMqJA
  LLAJALALOUHOUaRIAL SIGNaARABIC LIGATURE BISMILLAH AR-RAHMAN AR-RAHEEMqSUBHAANAHU WA TAAALAAqAZZA W
  A JALLaVARIATION SELECTOR-1t2t3t4t5t6t7t8t9t10u1u2u3u4u5u6aPRESENTATION FORM FOR VERTICAL COMMAzTI
  CAL IDEOGRAPHIC COMMAzTICAL IDEOGRAPHIC FULL STOPzTICAL COLONzTICAL SEMICOLONzTICAL EXCLAMATION MA
  RKzTICAL QUESTION MARKzTICAL LEFT WHITE LENTICULAR BRACKETzTICAL RIGHT WHITE LENTICULAR BRAKCETzTI
  CAL HORIZONTAL ELLIPSIS+fe20.aCOMBINING LIGATURE LEFT HALFtRIGHT HALFkDOUBLE TILDE LEFT HALFxRIGHT
   HALFkMACRON LEFT HALFrRIGHT HALFkCONJOINING MACRONkLIGATURE LEFT HALF BELOWtRIGHT HALF BELOWkTILD
  E LEFT HALF BELOWqRIGHT HALF BELOWkMACRON LEFT HALF BELOWrRIGHT HALF BELOWkCONJOINING MACRON BELOW
  lYRILLIC TITLO LEFT HALFzRIGHT HALFaPRESENTATION FORM FOR VERTICAL TWO DOT LEADERzTICAL EM DASHzTI
  CAL EN DASHzTICAL LOW LINEzTICAL WAVY LOW LINEzTICAL LEFT PARENTHESISzTICAL RIGHT PARENTHESISzTICA
  L LEFT CURLY BRACKETzTICAL RIGHT CURLY BRACKETzTICAL LEFT TORTOISE SHELL BRACKETzTICAL RIGHT TORTO
  ISE SHELL BRACKETzTICAL LEFT BLACK LENTICULAR BRACKETzTICAL RIGHT BLACK LENTICULAR BRACKETzTICAL L
  EFT DOUBLE ANGLE BRACKETzTICAL RIGHT DOUBLE ANGLE BRACKETzTICAL LEFT ANGLE BRACKETzTICAL RIGHT ANG
  LE BRACKETzTICAL LEFT CORNER BRACKETzTICAL RIGHT CORNER BRACKETzTICAL LEFT WHITE CORNER BRACKETzTI
  CAL RIGHT WHITE CORNER BRACKETaSESAME DOTaWHITE SESAME DOTaPRESENTATION FORM FOR VERTICAL LEFT SQU
  ARE BRACKETzTICAL RIGHT SQUARE BRACKETaDASHED OVERLINEaCENTRELINE OVERLINEaWAVY OVERLINEaDOUBLE WA
  VY OVERLINEbASHED LOW LINEaCENTRELINE LOW LINEaWAVY LOW LINEaSMALL COMMAgIDEOGRAPHIC COMMAgFULL ST
  OP+fe54.gSEMICOLONgCOLONgQUESTION MARKgEXCLAMATION MARKhM DASHgLEFT PARENTHESISgRIGHT PARENTHESISg
  LEFT CURLY BRACKETgRIGHT CURLY BRACKETgLEFT TORTOISE SHELL BRACKETgRIGHT TORTOISE SHELL BRACKETgNU
  MBER SIGNgAMPERSANDhSTERISKgPLUS SIGNgHYPHEN-MINUSgLESS-THAN SIGNgGREATER-THAN SIGNgEQUALS SIGN+fe
  68.gREVERSE SOLIDUSgDOLLAR SIGNgPERCENT SIGNgCOMMERCIAL AT+fe70.aARABIC FATHATAN ISOLATED FORMhTAT
  WEEL WITH FATHATAN ABOVEhDAMMATAN ISOLATED FORMhTAIL FRAGMENThKASRATAN ISOLATED FORM+fe76.hFATHA I
  SOLATED FORMnMEDIAL FORMhDAMMA ISOLATED FORMnMEDIAL FORMhKASRA ISOLATED FORMnMEDIAL FORMhSHADDA IS
  OLATED FORMoMEDIAL FORMiUKUN ISOLATED FORMnMEDIAL FORMhLETTER HAMZA ISOLATED FORMoALEF WITH MADDA 
  ABOVE ISOLATED FORMzADDA ABOVE FINAL FORMyHAMZA ABOVE ISOLATED FORMzAMZA ABOVE FINAL FORMoWAW WITH
   HAMZA ABOVE ISOLATED FORMzMZA ABOVE FINAL FORMoALEF WITH HAMZA BELOW ISOLATED FORMzAMZA BELOW FIN
  AL FORMoYEH WITH HAMZA ABOVE ISOLATED FORMzMZA ABOVE FINAL FORMzMZA ABOVE INITIAL FORMzMZA ABOVE M
  EDIAL FORMoALEF ISOLATED FORMtFINAL FORMoBEH ISOLATED FORMsFINAL FORMsINITIAL FORMsMEDIAL FORMoTEH
   MARBUTA ISOLATED FORMz FINAL FORMsISOLATED FORMsFINAL FORMsINITIAL FORMsMEDIAL FORMpHEH ISOLATED 
  FORMtFINAL FORMtINITIAL FORMtMEDIAL FORMoJEEM ISOLATED FORMtFINAL FORMtINITIAL FORMtMEDIAL FORMoHA
  H ISOLATED FORMsFINAL FORMsINITIAL FORMsMEDIAL FORMoKHAH ISOLATED FORMtFINAL FORMtINITIAL FORMtMED
  IAL FORMoDAL ISOLATED FORMsFINAL FORMoTHAL ISOLATED FORMtFINAL FORMoREH ISOLATED FORMsFINAL FORMoZ
  AIN ISOLATED FORMtFINAL FORMoSEEN ISOLATED FORMtFINAL FORMtINITIAL FORMtMEDIAL FORMpHEEN ISOLATED 
  FORMuFINAL FORMuINITIAL FORMuMEDIAL FORMpAD ISOLATED FORMsFINAL FORMsINITIAL FORMsMEDIAL FORMoDAD 
  ISOLATED FORMsFINAL FORMsINITIAL FORMsMEDIAL FORMoTAH ISOLATED FORMsFINAL FORMsINITIAL FORMsMEDIAL
   FORMoZAH ISOLATED FORMsFINAL FORMsINITIAL FORMsMEDIAL FORMoAIN ISOLATED FORMsFINAL FORMsINITIAL F
  ORMsMEDIAL FORMoGHAIN ISOLATED FORMuFINAL FORMuINITIAL FORMuMEDIAL FORMoFEH ISOLATED FORMsFINAL FO
  RMsINITIAL FORMsMEDIAL FORMoQAF ISOLATED FORMsFINAL FORMsINITIAL FORMsMEDIAL FORMoKAF ISOLATED FOR
  MsFINAL FORMsINITIAL FORMsMEDIAL FORMoLAM ISOLATED FORMsFINAL FORMsINITIAL FORMsMEDIAL FORMoMEEM I
  SOLATED FORMtFINAL FORMtINITIAL FORMtMEDIAL FORMoNOON ISOLATED FORMtFINAL FORMtINITIAL FORMtMEDIAL
   FORMoHEH ISOLATED FORMsFINAL FORMsINITIAL FORMsMEDIAL FORMoWAW ISOLATED FORMsFINAL FORMoALEF MAKS
  URA ISOLATED FORMzA FINAL FORMoYEH ISOLATED FORMsFINAL FORMsINITIAL FORMsMEDIAL FORMiIGATURE LAM W
  ITH ALEF WITH MADDA ABOVE ISOLATED FORMzALEF WITH MADDA ABOVE FINAL FORMzALEF WITH HAMZA ABOVE ISO
  LATED FORMzALEF WITH HAMZA ABOVE FINAL FORMzALEF WITH HAMZA BELOW ISOLATED FORMzALEF WITH HAMZA BE
  LOW FINAL FORMzALEF ISOLATED FORMzALEF FINAL FORM+feff.aZERO WIDTH NO-BREAK SPACE+ff01.aFULLWIDTH 
  EXCLAMATION MARKkQUOTATION MARKkNUMBER SIGNkDOLLAR SIGNkPERCENT SIGNkAMPERSANDlPOSTROPHEkLEFT PARE
  NTHESISkRIGHT PARENTHESISkASTERISKkPLUS SIGNkCOMMAkHYPHEN-MINUSkFULL STOPkSOLIDUSkDIGIT ZEROqONEqT
  WOrHREEqFOURrIVEqSIXrEVENqEIGHTqNINEkCOLONkSEMICOLONkLESS-THAN SIGNkEQUALS SIGNkGREATER-THAN SIGNk
  QUESTION MARKkCOMMERCIAL ATkLATIN CAPITAL LETTER AzETTER BzETTER CzETTER DzETTER EzETTER FzETTER G
  zETTER HzETTER IzETTER JzETTER KzETTER LzETTER MzETTER NzETTER OzETTER PzETTER QzETTER RzETTER SzE
  TTER TzETTER UzETTER VzETTER WzETTER XzETTER YzETTER ZlEFT SQUARE BRACKETkREVERSE SOLIDUSlIGHT SQU
  ARE BRACKETkCIRCUMFLEX ACCENTkLOW LINEkGRAVE ACCENTkLATIN SMALL LETTER AzTER BzTER CzTER DzTER EzT
  ER FzTER GzTER HzTER IzTER JzTER KzTER LzTER MzTER NzTER OzTER PzTER QzTER RzTER SzTER TzTER UzTER
   VzTER WzTER XzTER YzTER ZlEFT CURLY BRACKETkVERTICAL LINEkRIGHT CURLY BRACKETkTILDEkLEFT WHITE PA
  RENTHESISkRIGHT WHITE PARENTHESISaHALFWIDTH IDEOGRAPHIC FULL STOPkLEFT CORNER BRACKETkRIGHT CORNER
   BRACKETkIDEOGRAPHIC COMMAkKATAKANA MIDDLE DOTtLETTER WOz SMALL Az SMALL Iz SMALL Uz SMALL Ez SMAL
  L Oz SMALL YAz SMALL YUz SMALL YOz SMALL TUs-HIRAGANA PROLONGED SOUND MARKs LETTER Az Iz Uz Ez Oz 
  KAz KIz KUz KEz KOz SAz SIz SUz SEz SOz TAz TIz TUz TEz TOz NAz NIz NUz NEz NOz HAz HIz HUz HEz HO
  z MAz MIz MUz MEz MOz YAz YUz YOz RAz RIz RUz REz ROz WAz NtVOICED SOUND MARKtSEMI-VOICED SOUND MA
  RKkHANGUL FILLERrLETTER KIYEOKySSANGKIYEOKyKIYEOK-SIOSyNIEUNzIEUN-CIEUCzIEUN-HIEUHyTIKEUTySSANGTIK
  EUTyRIEULzIEUL-KIYEOKzIEUL-MIEUMzIEUL-PIEUPzIEUL-SIOSzIEUL-THIEUTHzIEUL-PHIEUPHzIEUL-HIEUHyMIEUMyP
  IEUPySSANGPIEUPyPIEUP-SIOSySIOSzSANGSIOSyIEUNGyCIEUCySSANGCIEUCyCHIEUCHyKHIEUKHyTHIEUTHyPHIEUPHyHI
  EUH+ffc2.yAzEyYAzAEyEOz+ffca.yYEOzEyOyWAzAEyOE+ffd2.yYOyUyWEOzEzIyYU+ffda.yEUyYIyI+ffe0.aFULLWIDTH
   CENT SIGNkPOUND SIGNkNOT SIGNkMACRONkBROKEN BARkYEN SIGNkWON SIGN+ffe8.aHALFWIDTH FORMS LIGHT VER
  TICALkLEFTWARDS ARROWkUPWARDS ARROWkRIGHTWARDS ARROWkDOWNWARDS ARROWkBLACK SQUAREkWHITE CIRCLE+fff
  9.aINTERLINEAR ANNOTATION ANCHORxSEPARATORxTERMINATORaOBJECT REPLACEMENT CHARACTERaREPLACEMENT CHA
  RACTER+10000.aLINEAR B SYLLABLE B008 Au38 Eu28 Iu61 Ou10 Uu01 DAu45 DEu07 DIu14 DOu51 DUv7 JAu46 J
  E+1000d.u36 JOu65 JUu77 KAu44 KEu67 KIu70 KOu81 KUv0 MAu13 MEu73 MIu15 MOu23 MUu06 NAu24 NEu30 NIu
  52 NOv5 NUu03 PAu72 PEu39 PIu11 POu50 PUu16 QAu78 QEu21 QIu32 QO+10028.u60 RAu27 REu53 RIu02 ROu26
   RUu31 SAu09 SEu41 SIu12 SOu58 SUv9 TAu04 TEu37 TIu05 TOu69 TUu54 WAu75 WEu40 WIv2 WO+1003c.u17 ZA
  u74 ZE+1003f.u20 ZOv5 A2u43 A3u85 AUu71 DWEu90 DWOu48 NWAu29 PU2u62 PTEu76 RA2u33 RA3u68 RO2v6 TA2
  u87 TWEu91 TWO+10050.lMBOL B018t9s22s34s47t9s56s63t4s79s82t3t6t9+10080.jIDEOGRAM B100 MANv2 WOMANv
  4 DEERv5 EQUIDwF MAREwM STALLIONv6F EWEwM RAMv7F SHE-GOATwM HE-GOATv8F SOWwM BOARv9F COWwM BULLu20
   WHEATv1 BARLEYv2 OLIVEv3 SPICEv5 CYPERUSjMONOGRAM B127 KAPOv8 KANAKOjIDEOGRAM B130 OILv1 WINEv2jM
  ONOGRAM B133 AREPAv5 MERIjIDEOGRAM B140 BRONZEv1 GOLDv2v5 WOOLv6u50v1 HORNv2v3v4jMONOGRAM B156 TUR
  O2jIDEOGRAM B157v8v9 CLOTHu60v1v2 GARMENTv3 ARMOURv4v5v6v7v8v9u70v1v2v3 MONTHv4v6 TREEv7v8v9u80v1v
  2v3v4v5v9u90v1 HELMETt220 FOOTSTOOLv5 BATHTUBu30 SPEARv1 ARROWv2v3 SWORDv4v6u40 WHEELED CHARIOTv1 
  CHARIOTv2 CHARIOT FRAMEv3 WHEELv5v6jMONOGRAM B247 DIPTEjIDEOGRAM B248v9u51v2v3v4 DARTv5v6v7v8v9sVE
  SSEL B155zB200zB201zB202zB203zB204zB205zB206zB207zB208zB209zB210zB211zB212zB213zB214zB215zB216zB21
  7zB218zB219zB221zB222zB226zB227zB228zB229zB250zB305+10100.aAEGEAN WORD SEPARATOR LINEwDOThCHECK MA
  RK+10107.hNUMBER ONEoTWOpHREEoFOURpIVEoSIXpEVENoEIGHToNINEoTENpWENTYpHIRTYoFORTYpIFTYoSIXTYpEVENTY
  oEIGHTYoNINETYoONE HUNDREDoTWO HUNDREDpHREE HUNDREDoFOUR HUNDREDpIVE HUNDREDoSIX HUNDREDpEVEN HUND
  REDoEIGHT HUNDREDoNINE HUNDREDoONE THOUSANDoTWO THOUSANDpHREE THOUSANDoFOUR THOUSANDpIVE THOUSANDo
  SIX THOUSANDpEVEN THOUSANDoEIGHT THOUSANDoNINE THOUSANDoTEN THOUSANDpWENTY THOUSANDpHIRTY THOUSAND
  oFORTY THOUSANDpIFTY THOUSANDoSIXTY THOUSANDpEVENTY THOUSANDoEIGHTY THOUSANDoNINETY THOUSAND+10137
  .hWEIGHT BASE UNIToFIRST SUBUNIToSECOND SUBUNIToTHIRD SUBUNIToFOURTH SUBUNIThDRY MEASURE FIRST SUB
  UNIThLIQUID MEASURE FIRST SUBUNIThMEASURE SECOND SUBUNITpTHIRD SUBUNITaGREEK ACROPHONIC ATTIC ONE 
  QUARTERzE HALFzE DRACHMAxFIVEzFTYzVE HUNDREDzVE THOUSANDzFTY THOUSANDzVE TALENTSxTEN TALENTSxFIFTY
   TALENTSxONE HUNDRED TALENTSxFIVE HUNDRED TALENTSxONE THOUSAND TALENTSxFIVE THOUSAND TALENTSzVE ST
  ATERSxTEN STATERSxFIFTY STATERSxONE HUNDRED STATERSxFIVE HUNDRED STATERSxONE THOUSAND STATERSxTEN 
  THOUSAND STATERSxFIFTY THOUSAND STATERSxTEN MNASrHERAEUM ONE PLETHRONrTHESPIAN ONErHERMIONIAN ONEr
  EPIDAUREAN TWOrTHESPIAN TWOrCYRENAIC TWO DRACHMASrEPIDAUREAN TWO DRACHMASrTROEZENIAN FIVEzAN TENzA
  N TEN ALTERNATE FORMrHERMIONIAN TENrMESSENIAN TENrTHESPIAN TENz THIRTYsROEZENIAN FIFTYzAN FIFTY AL
  TERNATE FORMrHERMIONIAN FIFTYrTHESPIAN FIFTYz ONE HUNDREDz THREE HUNDREDrEPIDAUREAN FIVE HUNDREDrT
  ROEZENIAN FIVE HUNDREDsHESPIAN FIVE HUNDREDrCARYSTIAN FIVE HUNDREDrNAXIAN FIVE HUNDREDrTHESPIAN ON
  E THOUSANDz FIVE THOUSANDrDELPHIC FIVE MNASrSTRATIAN FIFTY MNASgONE HALF SIGNt ALTERNATE FORMgTWO 
  THIRDS SIGNhHREE QUARTERS SIGNgYEAR SIGNgTALENT SIGNgDRACHMA SIGNgOBOL SIGNgTWO OBOLS SIGNhHREE OB
  OLS SIGNgFOUR OBOLS SIGNhIVE OBOLS SIGNgMETRETES SIGNgKYATHOS BASE SIGNgLITRA SIGNgOUNKIA SIGNgXES
  TES SIGNgARTABE SIGNiOURA SIGNgGRAMMA SIGNgTRYBLION BASE SIGNgZERO SIGNgONE QUARTER SIGNgSINUSOID 
  SIGNgINDICTION SIGNaNOMISMA SIGN+10190.aROMAN SEXTANS SIGNgUNCIA SIGNgSEMUNCIA SIGNiXTULA SIGNgDIM
  IDIA SEXTULA SIGNgSILIQUA SIGNgDENARIUS SIGNgQUINARIUS SIGNgSESTERTIUS SIGNgDUPONDIUS SIGNgAS SIGN
  gCENTURIAL SIGNaASCIA SYMBOL+101a0.aGREEK SYMBOL TAU RHO+101d0.aPHAISTOS DISC SIGN PEDESTRIANuLUME
  D HEADtTATTOOED HEADtCAPTIVEuHILDtWOMANtHELMETtGAUNTLETtTIARAtARROWtBOWtSHIELDtCLUBtMANACLESvTTOCK
  tSAWtLIDtBOOMERANGtCARPENTRY PLANEtDOLIUMtCOMBtSLINGtCOLUMNtBEEHIVEtSHIPtHORNuIDEtBULLS LEGtCATtRA
  MtEAGLEtDOVEtTUNNYtBEEtPLANE TREEtVINEtPAPYRUStROSETTEtLILYtOX BACKtFLUTEtGRATERtSTRAINERuMALL AXE
  tWAVY BANDtCOMBINING OBLIQUE STROKE+10280.aLYCIAN LETTER AoEoBpHoGoDoIoWoZoTHoJoKoQoLoMoNoMMoNNoUo
  PoKKoRoSoTpToANoENoHoX+102a0.aCARIAN LETTER AoP2oDoLoUUUoRoLDoA2oQoBoMoOoD2oToSHq2poC-18oUoNNoXoNo
  TT2oPoSSoIoEoUUUUoKp2oNDoUUoGp2oSTq2oNGoIIoC-39oTToUUU2oRRoMBq2q3q4oLD2oE2oUUU3+102e0.bOPTIC EPACT
   THOUSANDS MARKnDIGIT ONEtTWOuHREEtFOURuIVEtSIXuEVENtEIGHTtNINEnNUMBER TENvWENTYvHIRTYuFORTYvIFTYu
  SIXTYvEVENTYuEIGHTYuNINETYuONE HUNDREDuTWO HUNDREDvHREE HUNDREDuFOUR HUNDREDvIVE HUNDREDuSIX HUNDR
  EDvEVEN HUNDREDuEIGHT HUNDREDuNINE HUNDRED+10300.aOLD ITALIC LETTER AsBEsKEsDEsEsVEsZEsHEsTHEsIsKA
  sELtMtNtSHsOsPEsSHEsKUsERtSsTEsUsEKSsPHEsKHEsEFtRSsCHEsIIsUUsESSlNUMERAL ONEtFIVEtTENtFIFTY+1032d.
  lLETTER YEsNORTHERN TSEsSOUTHERN TSEaGOTHIC LETTER AHSAoBAIRKANoGIBAoDAGSoAIHVUSoQAIRTHRAoIUJAoHAG
  LoTHIUTHoEISoKUSMAoLAGUSoMANNAoNAUTHSoJERoURUSoPAIRTHRAoNINETYoRAIDAoSAUILoTEIWSoWINJAoFAIHUoIGGWS
  oHWAIRoOTHALoNINE HUNDRED+10350.aOLD PERMIC LETTER ANsBURsGAIsDOIsEsZHOIsDZHOIsZATAsDZITAsIsKOKEsL
  EIsMENOEsNENOEsVOOIsPEEIsREIsSIIsTAIsUsCHERYsSHOOIuCHOOIsYRYtERUsOtOsEFsHAsTSIUsVERsYERvItATsIEsYU
  tAsIAaCOMBINING OLD PERMIC LETTER ANzER DOIzER ZATAzER NENOEzER SII+10380.aUGARITIC LETTER ALPAqBE
  TAqGAMLAqKHAqDELTAqHOqWOqZETAqHOTAqTETqYODqKAFqSHINqLAMDAqMEMqDHALqNUNqZUqSAMKAqAINqPUqSADEqQOPAqR
  ASHAqTHANNAqGHAINqTOqIqUqSSU+1039f.jWORD DIVIDERaOLD PERSIAN SIGN ArIrUrKAsUrGAsUrXArCArJAsIrTAsUr
  DAsIsUrTHArPArBArFArNAsUrMAsIsUrYArVAsIrRAsUrLArSArZArSHAsSArHA+103c8.rAURAMAZDAAzAA-2zAAHArXSHAAY
  ATHIYArDAHYAAUSHzH-2rBAGAsUUMISHmWORD DIVIDERmNUMBER ONEtTWOuENuWENTYtHUNDRED+10400.aDESERET CAPIT
  AL LETTER LONG IzNG EzNG AzNG AHzNG OzNG OOxSHORT IzORT EzORT AzORT AHzORT OzORT OOxAYxOWxWUxYEExH
  xPEExBEExTEExDEExCHEExJEExKAYxGAYxEFxVEExETHxTHEExESxZEExESHxZHEExERyLyMyNzGxOIxEWiSMALL LETTER LO
  NG Iz Ez Az AHz Oz OOvSHORT IzT EzT AzT AHzT OzT OOvAYvOWvWUvYEEvHvPEEvBEEvTEEvDEEvCHEEvJEEvKAYvGA
  YvEFvVEEvETHvTHEEvESvZEEvESHvZHEEvERwLwMwNxGvOIvEWaSHAVIAN LETTER PEEPpTOTpKICKpFEEpTHIGHpSOqUREpC
  HURCHpYEApHUNGpBIBpDEADpGAGpVOWpTHEYpZOOpMEASUREpJUDGEpWOEpHA-HApLOLLpMIMEpIFpEGGpASHqDOpONpWOOLpO
  UTpAHpROARpNUNpEATpAGEpICEpUPpOAKqOZEqILpAWEqREpORpAIRpERRpARRAYpEARpIANpYEWaOSMANYA LETTER ALEFpB
  ApTApJApXApKHApDEELpRApSAqHIINpDHApCAYNpGApFApQAAFpKAAFpLAANpMIINpNUUNpWAWpHApYApApEpIpOpUpAApEEpO
  O+104a0.iDIGIT ZEROoONEoTWOpHREEoFOURpIVEoSIXpEVENoEIGHToNINE+104b0.cAGE CAPITAL LETTER AwIxNwHvBR
  AvCHAvEHCHAwwINvHAwYAvIvKAvEHKAvKYAvLAvMAvNAvOwINvPAvEHPAvSAwHAvTAvEHTAvTSAvEHTSAvTSHAvDHAvUvWAvKH
  AvGHAvZAwHA+104d8.gSMALL LETTER AuIvNuHtBRAtCHAtEHCHAuuINtHAuYAtItKAtEHKAtKYAtLAtMAtNAtOuINtPAtEHP
  AtSAuHAtTAtEHTAtTSAtEHTSAtTSHAtDHAtUtWAtKHAtGHAtZAuHA+10500.aELBASAN LETTER ApBEpCEqHEpDEpNDEpDHEp
  EIqpFEpGEqJEpHEpIpJEpKEpLEqLEpMEpNEqAqJEpOpPEpQEpREqREpSEqHEpTEqHEpUpVEpXEpYpZEqHEpGHErAMMApKHE+10
  530.aCAUCASIAN ALBANIAN LETTER ALTz BETz GIMz DATz EBz ZARLz EYNz ZHILz TASz CHAz YOWDz ZHAz IRBz 
  SHAz LANz INYAz XEYNz DYANz CARz JHOXz KARz LYITz HEYTz QAYz AORz CHOYz CHIz CYAYz MAQz QARz NOWCz
   DZYAYz SHAKz JAYNz ONz TYAYz FAMz DZAYz CHATz PENz GHEYSz RATz SEYKz VEYZz TIWRz SHOYz IWNz CYAWz
   CAYNz YAYDz PIWRz KIW+1056f.tCITATION MARKaVITHKUQI CAPITAL LETTER AyBBEzEyCEzHEyDEzHEyEIzyFEyGA+
  1057c.yHAzHAyIzJEyJEyKAyLAzLAyMEyNEzJEyOyPEyQAyRE+1058c.ySEzHEyTEzHEyUyVEyXE+10594.yYyZE+10597.jSM
  ALL LETTER AwBBExEwCExHEwDExHEwEIxwFEwGA+105a3.wHAxHAwIxJEwJEwKAwLAxLAwMEwNExJEwOwPEwQAwRE+105b3.w
  SExHEwTExHEwUwVEwXE+105bb.wYwZE+10600.aLINEAR A SIGN AB001s2s3s4s5s6s7s8s9r10s1s3s6s7r20s1tFtMs2tF
  tMs3tMs4s6s7s8p028BpB029r30s1s4s7s8s9r40s1s4s5s6s7s8s9r50s1s3s4s5s6s7s8s9r60s1s5s6s7s9r70s3s4s6s7s
  8s9r80s1s2s5s6s7p100-102pB118r20p120BpB122s3r31AtBp131CpB164r71r80s8r91p301r2r3r4r5r6r7r8r9AsBsCq1
  0r1r2r3AsBsCr4r5r6r7r8r9q20r1r2r3r4r5r6r7r8r9q30r1r2r3r4r5r6r7r8r9q40r1r2r3r4r5r6r7r8r9q50r1r2r3r4
  r5r6r7r8r9q60r1r2r3r4r5r6r7r8r9q70r1p400-VASr1-VASr2-VASr3-VASr4-VASr5-VASr6-VASr7-VASr8-VASr9-VAS
  q10-VASr1-VASr2-VASr3-VASr4-VASr5-VASr6-VASr7-VASr8-VASp501r2r3r4r5r6r8r9q10r1r2r3r5r6q20r1r3r4r5r
  6r7r8r9q30r1r2r4r5r6r7r8r9q40r1r2r5r7r8r9q50r1r2r3r4r5r6r7r9q63r4r5r6r8r9q70r1r2r3r4r5r6r7r8r9q80r
  1r2r3r4r5r6r7r8r9q91r2r4r5r6r8p600r1r2r3r4r6r8r9q10r1r2r3r4r5r6r7r8r9q20r1r2r3r4r6r7r8r9q34r7r8q40
  r2r3r4r5r6r8r9q51r2r3r4r5r6r7r8r9q60r1r2r3r4+10740.p701 Ar2 Br3 Dr4 Er5 Fr6 Hr7 Jr8 Kr9 Ls-2 L2t3 
  L3t4 L4t6 L6q10 Wr1 Xr2 Yr3 OMEGAr4 ABBr5 BBr7 DDq26 EYYYq32 JE+10760.p800r1r2r3r4r5r6r7+10780.aMO
  DIFIER LETTER SMALL CAPITAL AArUPERSCRIPT TRIANGULAR COLONzPT HALF TRIANGULAR COLONrMALL AEwCAPITA
  L BwB WITH HOOK+10787.wDZ DIGRAPHzDIGRAPH WITH RETROFLEX HOOKzDIGRAPH WITH CURLxEZH DIGRAPHx WITH 
  TAILzITH HOOKzITH HOOK AND TAILwREVERSED EwCLOSED REVERSED OPEN EwFENG DIGRAPHwRAMS HORNwCAPITAL G
  wG WITH HOOKwCAPITAL G WITH HOOKwH WITH STROKEwCAPITAL HwHENG WITH HOOKwDOTLESS J WITH STROKE AND 
  HOOKwLS DIGRAPHxZ DIGRAPHx WITH BELTwCAPITAL L WITH BELTwL WITH RETROFLEX HOOK AND BELTxEZHzH WITH
   RETROFLEX HOOKwTURNED YzNED Y WITH BELTwO WITH STROKEwCAPITAL OExLOSED OMEGAwQwTURNED R WITH LONG
   LEGzNED R WITH LONG LEG AND RETROFLEX HOOKwR WITH TAILzITH FISHHOOKwCAPITAL RwTC DIGRAPH WITH CUR
  LxS DIGRAPHzDIGRAPH WITH RETROFLEX HOOKxESH DIGRAPHx WITH RETROFLEX HOOKwV WITH RIGHT HOOK+107b2.w
  CAPITAL YqGLOTTAL STOP WITH STROKEqREVERSED GLOTTAL STOP WITH STROKEqBILABIAL CLICKqDENTAL CLICKqL
  ATERAL CLICKqALVEOLAR CLICKqRETROFLEX CLICK WITH RETROFLEX HOOKqSMALL S WITH CURL+10800.aCYPRIOT S
  YLLABLE ArErIrOrUrJA+10808.sO+1080a.rKAsEsIsOsUrLAsEsIsOsUrMAsEsIsOsUrNAsEsIsOsUrPAsEsIsOsUrRAsEsI
  sOsUrSAsEsIsOsUrTAsEsIsOsUrWAsEsIsO+10837.rXAsE+1083c.rZA+1083f.sOaIMPERIAL ARAMAIC LETTER ALEPHyB
  ETHyGIMELyDALETHyHEyWAWyZAYINyHETHyTETHyYODHyKAPHyLAMEDHyMEMyNUNySAMEKHyAYINyPEySADHEyQOPHyRESHySH
  INyTAW+10857.rSECTION SIGNrNUMBER ONEyTWOzHREEzENzWENTYyONE HUNDREDzNE THOUSANDyTEN THOUSANDaPALMY
  RENE LETTER ALEPHrBETHrGIMELrDALETHrHErWAWrZAYINrHETHrTETHrYODHrKAPHrLAMEDHrMEMrFINAL NUNrNUNrSAME
  KHrAYINrPErSADHErQOPHrRESHrSHINrTAWmFT-POINTING FLEURONkRIGHT-POINTING FLEURONkNUMBER ONErTWOsHREE
  rFOURsIVErTENsWENTYaNABATAEAN LETTER FINAL ALEPHrALEPHrFINAL BETHrBETHrGIMELrDALETHrFINAL HErHErWA
  WrZAYINrHETHrTETHrFINAL YODHrYODHrFINAL KAPHrKAPHrFINAL LAMEDHrLAMEDHrFINAL MEMrMEMrFINAL NUNrNUNr
  SAMEKHrAYINrPErSADHErQOPHrRESHrFINAL SHINrSHINrTAW+108a7.kNUMBER ONErTWOsHREErFOURkCRUCIFORM NUMBE
  R FOURkNUMBER FIVErTENsWENTYrONE HUNDRED+108e0.aHATRAN LETTER ALEPHoBETHoGIMELoDALETH-RESHoHEoWAWo
  ZAYNoHETHoTETHoYODHoKAPHoLAMEDHoMEMoNUNoSAMEKHoAYNoPEoSADHEoQOPH+108f4.oSHINoTAW+108fb.hNUMBER ONE
  oFIVEoTENpWENTYoONE HUNDREDaPHOENICIAN LETTER ALFsBETsGAMLsDELTsHEsWAUsZAIsHETsTETsYODsKAFsLAMDsME
  MsNUNsSEMKsAINsPEsSADEsQOFsROSHsSHINsTAUlNUMBER ONEsTENtWENTYsONE HUNDREDsTWOtHREE+1091f.lWORD SEP
  ARATORaLYDIAN LETTER AoBoGoDoEoVoIoYoKoLoMoNoOoRoSSoToUoFoQoSoTToANoENoLYoNNoC+1093f.hTRIANGULAR M
  ARK+10980.aMEROITIC HIEROGLYPHIC LETTER AzTER EzTER IzTER OzTER YAzTER WAzTER BAzTER BA-2zTER PAzT
  ER MAzTER NAzTER NA-2zTER NEzTER NE-2zTER RAzTER RA-2zTER LAzTER KHAzTER HHAzTER SAzTER SA-2zTER S
  EzTER KAzTER QAzTER TAzTER TA-2zTER TEzTER TE-2zTER TOzTER DAwSYMBOL VIDJzBOL VIDJ-2jCURSIVE LETTE
  R AyEyIyOyYAyWAyBAyPAyMAyNAzEyRAyLAyKHAyHHAySAyARCHAIC SAySEyKAyQAyTAzEzOyDA+109bc.rFRACTION ELEVE
  N TWELFTHSz ONE HALFrLOGOGRAM RMTz IMNrNUMBER ONEyTWOzHREEyFOURzIVEySIXzEVENyEIGHTyNINEyTENzWENTYz
  HIRTYyFORTYzIFTYySIXTYzEVENTY+109d2.yONE HUNDREDyTWO HUNDREDzHREE HUNDREDyFOUR HUNDREDzIVE HUNDRED
  ySIX HUNDREDzEVEN HUNDREDyEIGHT HUNDREDyNINE HUNDREDyONE THOUSANDyTWO THOUSANDzHREE THOUSANDyFOUR 
  THOUSANDzIVE THOUSANDySIX THOUSANDzEVEN THOUSANDyEIGHT THOUSANDyNINE THOUSANDyTEN THOUSANDzWENTY T
  HOUSANDzHIRTY THOUSANDyFORTY THOUSANDzIFTY THOUSANDySIXTY THOUSANDzEVENTY THOUSANDyEIGHTY THOUSAND
  yNINETY THOUSANDyONE HUNDRED THOUSANDyTWO HUNDRED THOUSANDzHREE HUNDRED THOUSANDyFOUR HUNDRED THOU
  SANDzIVE HUNDRED THOUSANDySIX HUNDRED THOUSANDzEVEN HUNDRED THOUSANDyEIGHT HUNDRED THOUSANDyNINE H
  UNDRED THOUSANDrFRACTION ONE TWELFTHz TWO TWELFTHSz THREE TWELFTHSz FOUR TWELFTHSz FIVE TWELFTHSz 
  SIX TWELFTHSz SEVEN TWELFTHSz EIGHT TWELFTHSz NINE TWELFTHSz TEN TWELFTHSaKHAROSHTHI LETTER AlVOWE
  L SIGN IwUwVOCALIC R+10a05.wEwO+10a0c.rLENGTH MARKlSIGN DOUBLE RING BELOWqANUSVARAqVISARGAlLETTER 
  KAtHAsGAtHA+10a15.sCAtHAsJA+10a19.sNYAsTTAuHAsDDAuHAsNNAsTAtHAsDAtHAsNAsPAtHAsBAtHAsMAsYAsRAsLAsVA
  sSHAtSAtAsZAsHAsKKAsTTTHAvAsVHA+10a38.lSIGN BAR ABOVEqCAUDAqDOT BELOW+10a3f.lVIRAMAlDIGIT ONErTWOs
  HREErFOURlNUMBER TENtWENTYsONE HUNDREDwTHOUSANDlFRACTION ONE HALF+10a50.lPUNCTUATION DOTxSMALL CIR
  CLExCIRCLEyRESCENT BARxMANGALAMxLOTUSxDANDAyOUBLE DANDAxLINES+10a60.aOLD SOUTH ARABIAN LETTER HEzL
  AMEDHzHETHzMEMzQOPHzWAWzSHINzRESHzBETHzTAWzSATzKAPHzNUNzKHETHzSADHEzSAMEKHzFEzALEFzAYNzDHADHEzGIME
  LzDALETHzGHAYNzTETHzZAYNzDHALETHzYODHzTHAWzTHETHsNUMBER ONEzFIFTYvERIC INDICATOReNORTH ARABIAN LET
  TER HEHzLAMzHAHzMEEMzQAFzWAWzES-2zREHzBEHzTEHzES-1zKAFzNOONzKHAHzSADzES-3zFEHzALEFzAINzDADzGEEMzDA
  LzGHAINzTAHzZAINzTHALzYEHzTHEHzZAHsNUMBER ONEzTENzTWENTY+10ac0.aMANICHAEAN LETTER ALEPHsBETHtHETHs
  GIMELtHIMELsDALETHsHEsWAWlSIGN UDlLETTER ZAYINtHAYINsJAYINtHAYINsHETHsTETHsYODHsKAPHsXAPHsKHAPHsLA
  MEDHsDHAMEDHsTHAMEDHsMEMsNUNsSAMEKHsAYINtAYINsPEsFEsSADHEsQOPHsXOPHsQHOPHsRESHsSHINtSHINsTAWlABBRE
  VIATION MARK ABOVEzARK BELOW+10aeb.lNUMBER ONEsFIVEsTENtWENTYsONE HUNDREDlPUNCTUATION STARxFLEURON
  xDOUBLE DOT WITHIN DOTzT WITHIN DOTzTxTWO DOTSxLINE FILLER+10b00.aAVESTAN LETTER AqAqOqAOqNqANqErE
  pEqEpOqOpIqIpUqUpKEpXEqYEqVEpGEqGEqHEpCEpJEpTEqHEpDEqHEpTTEpPEpFEpBEqHEpNGErYErVEqEqYEqNEpMEpHMEpY
  YEqEpVEpREpLEpSEpZEpSHEpZHEpSHYEqSHEpHE+10b39.iABBREVIATION MARKaTINY TWO DOTS OVER ONE DOT PUNCTU
  ATIONaSMALL TWO DOTS OVER ONE DOT PUNCTUATIONaLARGE TWO DOTS OVER ONE DOT PUNCTUATIONgONE DOT OVER
   TWO DOTS PUNCTUATIONgTWO RINGS OVER ONE RING PUNCTUATIONgONE RING OVER TWO RINGS PUNCTUATIONaINSC
  RIPTIONAL PARTHIAN LETTER ALEPHzTTER BETHzTTER GIMELzTTER DALETHzTTER HEzTTER WAWzTTER ZAYINzTTER 
  HETHzTTER TETHzTTER YODHzTTER KAPHzTTER LAMEDHzTTER MEMzTTER NUNzTTER SAMEKHzTTER AYINzTTER PEzTTE
  R SADHEzTTER QOPHzTTER RESHzTTER SHINzTTER TAW+10b58.xNUMBER ONEzMBER TWOzMBER THREEzMBER FOURzMBE
  R TENzMBER TWENTYzMBER ONE HUNDREDzMBER ONE THOUSANDqHLAVI LETTER ALEPHzTER BETHzTER GIMELzTER DAL
  ETHzTER HEzTER WAW-AYIN-RESHzTER ZAYINzTER HETHzTER TETHzTER YODHzTER KAPHzTER LAMEDHzTER MEM-QOPH
  zTER NUNzTER SAMEKHzTER PEzTER SADHEzTER SHINzTER TAW+10b78.wNUMBER ONEzBER TWOzBER THREEzBER FOUR
  zBER TENzBER TWENTYzBER ONE HUNDREDzBER ONE THOUSANDaPSALTER PAHLAVI LETTER ALEPHxBETHxGIMELxDALET
  HxHExWAW-AYIN-RESHxZAYINxHETHxYODHxKAPHxLAMEDHxMEM-QOPHxNUNxSAMEKHxPExSADHEyHINxTAW+10b99.qSECTION
   MARKqTURNED SECTION MARKqFOUR DOTS WITH CROSSz WITH DOT+10ba9.qNUMBER ONExTWOyHREExFOURxTENyWENTY
  xONE HUNDRED+10c00.aOLD TURKIC LETTER ORKHON AsYENISEI Az AEsORKHON IsYENISEI Iz EsORKHON OzOEsYEN
  ISEI OEsORKHON ABsYENISEI ABsORKHON AEBsYENISEI AEBsORKHON AGsYENISEI AGsORKHON AEGsYENISEI AEGsOR
  KHON ADsYENISEI ADsORKHON AEDzEZsYENISEI EZsORKHON AYsYENISEI AYsORKHON AEYsYENISEI AEYsORKHON AEK
  sYENISEI AEKsORKHON OEKsYENISEI OEKsORKHON ALsYENISEI ALsORKHON AELzELTzEMzANzAENsYENISEI AENsORKH
  ON ENTsYENISEI ENTsORKHON ENCsYENISEI ENCsORKHON ENYsYENISEI ENYz ANGsORKHON ENGsYENISEI AENGsORKH
  ON EPzOPzICzECsYENISEI ECsORKHON AQsYENISEI AQsORKHON IQsYENISEI IQsORKHON OQsYENISEI OQsORKHON AR
  sYENISEI ARsORKHON AERzASzAESzASHsYENISEI ASHsORKHON ESHsYENISEI ESHsORKHON ATsYENISEI ATsORKHON A
  ETsYENISEI AETsORKHON OTzBASH+10c80.eHUNGARIAN CAPITAL LETTER AzTER AAzTER EBzTER AMBzTER ECzTER E
  NCzTER ECSzTER EDzTER ANDzTER EzTER CLOSE EzTER EEzTER EFzTER EGzTER EGYzTER EHzTER IzTER IIzTER E
  JzTER EKzTER AKzTER UNKzTER ELzTER ELYzTER EMzTER ENzTER ENYzTER OzTER OOzTER NIKOLSBURG OEzTER RU
  DIMENTA OEzTER OEEzTER EPzTER EMPzTER ERzTER SHORT ERzTER ESzTER ESZzTER ETzTER ENTzTER ETYzTER EC
  HzTER UzTER UUzTER NIKOLSBURG UEzTER RUDIMENTA UEzTER EVzTER EZzTER EZSzTER ENT-SHAPED SIGNzTER US
  +10cc0.oSMALL LETTER AzR AAzR EBzR AMBzR ECzR ENCzR ECSzR EDzR ANDzR EzR CLOSE EzR EEzR EFzR EGzR 
  EGYzR EHzR IzR IIzR EJzR EKzR AKzR UNKzR ELzR ELYzR EMzR ENzR ENYzR OzR OOzR NIKOLSBURG OEzR RUDIM
  ENTA OEzR OEEzR EPzR EMPzR ERzR SHORT ERzR ESzR ESZzR ETzR ENTzR ETYzR ECHzR UzR UUzR NIKOLSBURG U
  EzR RUDIMENTA UEzR EVzR EZzR EZSzR ENT-SHAPED SIGNzR US+10cfa.oNUMBER ONEvFIVEvTENvFIFTYvONE HUNDR
  EDzTHOUSANDaHANIFI ROHINGYA LETTER AxBAxPAxTAyTAxJAxCAxHAxKHAxFAxDAyDAxRAyRAxZAxSAyHAxKAxGAxLAxMAx
  NAxWAxKINNA WAxYAxKINNA YAxNGAyYAxVAqVOWEL AwIwUwEwOqMARK SAKINvNA KHONNAqSIGN HARBAHAYvTAHALAxNAx
  SSI+10d30.qDIGIT ZEROwONEwTWOxHREEwFOURxIVEwSIXxEVENwEIGHTwNINE+10e60.aRUMI DIGIT ONElTWOmHREElFOU
  RmIVElSIXmEVENlEIGHTlNINEfNUMBER TENnWENTYnHIRTYmFORTYnIFTYmSIXTYnEVENTYmEIGHTYmNINETYmONE HUNDRED
  mTWO HUNDREDnHREE HUNDREDmFOUR HUNDREDnIVE HUNDREDmSIX HUNDREDnEVEN HUNDREDmEIGHT HUNDREDmNINE HUN
  DREDfFRACTION ONE HALFsQUARTERsTHIRDoTWO THIRDS+10e80.aYEZIDI LETTER ELIFoBEoPEpHEoTHEoSEoCIMpHIMq
  HIMoHHAoXAoDALoZALoRApHAoZAoJAoSINpHINpADoDADoTAoZEoEYNoXHEYNoFAoVAq ALTERNATE FORMoQAFoKAFpHAFoGA
  FoLAMoMIMoNUNoUMoWAWoOWoEWoHAYoYOToET+10eab.hCOMBINING HAMZA MARKrMADDA MARKhHYPHENATION MARK+10eb
  0.hLETTER LAM WITH DOT ABOVEoYOT WITH CIRCUMFLEX ABOVE+10f00.aOLD SOGDIAN LETTER ALEPHtFINAL ALEPH
  tBETHtFINAL BETHtGIMELtHEtFINAL HEtWAWtZAYINtHETHtYODHtKAPHtLAMEDHtMEMtNUNtFINAL NUNzNUN WITH VERT
  ICAL TAILtSAMEKHtAYINuLTERNATE AYINtPEtSADHEtFINAL SADHEzSADHE WITH VERTICAL TAILtRESH-AYIN-DALETH
  tSHINtTAWtFINAL TAWzTAW WITH VERTICAL TAILmNUMBER ONEtTWOuHREEtFOURuIVEtTENuWENTYuHIRTYtONE HUNDRE
  DmFRACTION ONE HALFmLIGATURE AYIN-DALETH+10f30.aSOGDIAN LETTER ALEPHpBETHpGIMELpHEpWAWpZAYINpHETHp
  YODHpKAPHpLAMEDHpMEMpNUNpSAMEKHpAYINpPEpSADHEpRESH-AYINpSHINpTAWpFETHpLESHiINDEPENDENT SHINiCOMBIN
  ING DOT BELOWsTWO DOTS BELOWsDOT ABOVEsTWO DOTS ABOVEsCURVE ABOVEyBELOWsHOOK ABOVExBELOWsLONG HOOK
   BELOWsRESH BELOWsSTROKE BELOWiNUMBER ONEpTENqWENTYpONE HUNDREDiPUNCTUATION TWO VERTICAL BARSzERTI
  CAL BARS WITH DOTSuCIRCLE WITH DOTuTWO CIRCLES WITH DOTSuHALF CIRCLE WITH DOT+10f70.aOLD UYGHUR LE
  TTER ALEPHsBETHsGIMEL-HETHsWAWsZAYINsFINAL HETHsYODHsKAPHsLAMEDHsMEMsNUNsSAMEKHsPEsSADHEsRESHsSHIN
  sTAWsLESHlCOMBINING DOT ABOVEzBELOWvTWO DOTS ABOVEzDOTS BELOWlPUNCTUATION BARxTWO BARSzO DOTSxFOUR
   DOTS+10fb0.aCHORASMIAN LETTER ALEPHsSMALL ALEPHsBETHsGIMELsDALETHsHEsWAWsCURLED WAWsZAYINsHETHsYO
  DHsKAPHsLAMEDHsMEMsNUNsSAMEKHsAYINsPEsRESHsSHINsTAWlNUMBER ONEsTWOtHREEsFOURsTENtWENTYsONE HUNDRED
  +10fe0.aELYMAIC LETTER ALEPHpBETHpGIMELpDALETHpHEpWAWpZAYINpHETHpTETHpYODHpKAPHpLAMEDHpMEMpNUNpSAM
  EKHpAYINpPEpSADHEpQOPHpRESHpSHINpTAWjIGATURE ZAYIN-YODH+11000.aBRAHMI SIGN CANDRABINDUmANUSVARAmVI
  SARGAmJIHVAMULIYAmUPADHMANIYAhLETTER ApAoIpIoUpUoVOCALIC RxRwLxLoEoAIoOoAUoKApHAoGApHAoNGAoCApHAoJ
  ApHAoNYAoTTAqHAoDDAqHAoNNAoTApHAoDApHAoNAoPApHAoBApHAoMAoYAoRAoLAoVAoSHApSApAoHAoLLAoOLD TAMIL LLL
  AyRRAyNNNAhVOWEL SIGN AAsBHATTIPROLU AAsItIsUtUsVOCALIC Rz RRz Lz LLsEsAIsOsAUiIRAMAhDANDAiOUBLE D
  ANDAhPUNCTUATION DOTvUBLE DOTtLINEtCRESCENT BARtLOTUS+11052.hNUMBER ONEoTWOpHREEoFOURpIVEoSIXpEVEN
  oEIGHToNINEoTENpWENTYpHIRTYoFORTYpIFTYoSIXTYpEVENTYoEIGHTYoNINETYoONE HUNDREDsTHOUSANDhDIGIT ZEROn
  ONEnTWOoHREEnFOURoIVEnSIXoEVENnEIGHTnNINEhSIGN OLD TAMIL VIRAMAhLETTER OLD TAMIL SHORT EzHORT OhVO
  WEL SIGN OLD TAMIL SHORT EzIL SHORT OhLETTER OLD TAMIL LLA+1107f.hNUMBER JOINERaKAITHI SIGN CANDRA
  BINDUmANUSVARAmVISARGAhLETTER ApAoIpIoUpUoEoAIoOoAUoKApHAoGApHAoNGAoCApHAoJApHAoNYAoTTAqHAoDDAqDHA
  qHAoRHAoNNAoTApHAoDApHAoNAoPApHAoBApHAoMAoYAoRAoLAoVAoSHApSApAoHAhVOWEL SIGN AAsItIsUtUsEsAIsOsAUh
  SIGN VIRAMAmNUKTAhABBREVIATION SIGNhENUMERATION SIGNhNUMBER SIGNhSECTION MARKhDOUBLE SECTION MARKi
  ANDAiOUBLE DANDAhVOWEL SIGN VOCALIC R+110cd.hNUMBER SIGN ABOVE+110d0.aSORA SOMPENG LETTER SAHuTAHu
  BAHuCAHuDAHuGAHuMAHuNGAHuLAHuNAHuVAHuPAHuYAHuRAHuHAHuKAHuJAHuNYAHuAHuEEHuIHuUHuOHuEHuMAE+110f0.nDI
  GIT ZEROtONEtTWOuHREEtFOURuIVEtSIXuEVENtEIGHTtNINE+11100.aCHAKMA SIGN CANDRABINDUmANUSVARAmVISARGA
  hLETTER AAoIoUoEoKAApHAAoGAApHAAoNGAAoCAApHAAoJAApHAAoNYAAoTTAAqHAAoDDAAqHAAoNNAAoTAApHAAoDAApHAAo
  NAAoPAApHAAoBAApHAAoMAAoYYAApAAoRAAoLAAoWAAoSAAoHAAhVOWEL SIGN AsItIsUtUsEsAIsOsAUsOIhO MARKhAU MA
  RKhVIRAMAhMAAYYAA+11136.hDIGIT ZEROnONEnTWOoHREEnFOURoIVEnSIXoEVENnEIGHTnNINEhSECTION MARKhDANDAiO
  UBLE DANDAhQUESTION MARKhLETTER LHAAhVOWEL SIGN AAsEIhLETTER VAA+11150.aMAHAJANI LETTER AqIqUqEqOq
  KArHAqGArHAqCArHAqJArHAqNYAqTTAsHAqDDAsHAqNNAqTArHAqDArHAqNAqPArHAqBArHAqMAqRAqLAqVAqSAqHAqRRAjSIG
  N NUKTAjABBREVIATION SIGNjSECTION MARKjLIGATURE SHRI+11180.aSHARADA SIGN CANDRABINDUnANUSVARAnVISA
  RGAiLETTER AqApIqIpUqUpVOCALIC RyRxLyLpEpAIpOpAUpKAqHApGAqHApNGApCAqHApJAqHApNYApTTArHApDDArHApNNA
  pTAqHApDAqHApNApPAqHApBAqHApMApYApRApLAqLApVApSHAqSAqApHAiVOWEL SIGN AAtIuItUuUtVOCALIC RzC RRzC L
  zC LLtEtAItOtAUiSIGN VIRAMAnAVAGRAHAnJIHVAMULIYAnUPADHMANIYAiOMiDANDAjOUBLE DANDAiABBREVIATION SIG
  NiSEPARATORjANDHI MARKjIGN NUKTAiVOWEL MODIFIER MARKiEXTRA SHORT VOWEL MARKiSUTRA MARKiVOWEL SIGN 
  PRISHTHAMATRA EiSIGN INVERTED CANDRABINDUiDIGIT ZEROoONEoTWOpHREEoFOURpIVEoSIXpEVENoEIGHToNINEiEKA
  MiSIGN SIDDHAMiHEADSTROKEiCONTINUATION SIGNiSECTION MARK-1v2+111e1.bINHALA ARCHAIC DIGIT ONEwTWOxH
  REEwFOURxIVEwSIXxEVENwEIGHTwNINEqNUMBER TENyWENTYyHIRTYxFORTYyIFTYxSIXTYyEVENTYxEIGHTYxNINETYxONE 
  HUNDREDzE THOUSAND+11200.aKHOJKI LETTER ApAoIoUoEoAIoOoAUoKApHAoGApGApHAoNGAoCApHAoJApJA+11213.oNY
  AoTTAqHAoDDAqHAoNNAoTApHAoDApDDApHAoNAoPApHAoBApBApHAoMAoYAoRAoLAoVAoSAoHAoLLAhVOWEL SIGN AAsItIsU
  sEsAIsOsAUhSIGN ANUSVARAmVIRAMAmNUKTAmSHADDAhDANDAiOUBLE DANDAhWORD SEPARATORhSECTION MARKhDOUBLE 
  SECTION MARKhABBREVIATION SIGNhSIGN SUKUN+11280.aMULTANI LETTER ApIpUpEpKAqHApGA+11288.qHA+1128a.p
  CAqHApJAqJA+1128f.pNYApTTArHApDDArDArHApNNApTAqHApDAqHApNApPAqHApBA+1129f.qHApMApYApRApLApVApSApHA
  pRRAqHAiSECTION MARK+112b0.aKHUDAWADI LETTER AsArIsIrUsUrErAIrOrAUrKAsHArGAsGAsHArNGArCAsHArJAsJAs
  HArNYArTTAtHArDDAtDArRRArDDHArNNArTAsHArDAsHArNArPAsHArBAsBAsHArMArYArRArLArVArSHAsArHAkSIGN ANUSV
  ARAkVOWEL SIGN AAvIwIvUwUvEvAIvOvAUkSIGN NUKTApVIRAMA+112f0.kDIGIT ZEROqONEqTWOrHREEqFOURrIVEqSIXr
  EVENqEIGHTqNINE+11300.aGRANTHA SIGN COMBINING ANUSVARA ABOVEoANDRABINDUnANUSVARAnVISARGA+11305.iLE
  TTER AqApIqIpUqUpVOCALIC RxL+1130f.pEEpAI+11313.pOOpAUpKAqHApGAqHApNGApCAqHApJAqHApNYApTTArHApDDAr
  HApNNApTAqHApDAqHApNA+1132a.pPAqHApBAqHApMApYApRA+11332.pLAqLA+11335.pVApSHAqSAqApHA+1133b.aCOMBIN
  ING BINDU BELOWaGRANTHA SIGN NUKTAnAVAGRAHAiVOWEL SIGN AAtIuItUuUtVOCALIC RzC RR+11347.tEEtAI+1134
  b.tOOtAUiSIGN VIRAMA+11350.iOM+11357.iAU LENGTH MARK+1135d.iSIGN PLUTAiLETTER VEDIC ANUSVARAvDOUBL
  E ANUSVARAqOCALIC RRxLLiVOWEL SIGN VOCALIC LzC LL+11366.aCOMBINING GRANTHA DIGIT ZEROyONEyTWOzHREE
  yFOURzIVEySIX+11370.sLETTER AzKAzNAzVIzPA+11400.aNEWA LETTER AnAmInImUnUmVOCALIC RvRuLvLmEmAImOmAU
  mKAnHAmGAnHAmNGAoHAmCAnHAmJAnHAmNYAoHAmTTAoHAmDDAoHAmNNAmTAnHAmDAnHAmNAnHAmPAnHAmBAnHAmMAnHAmYAmRA
  nHAmLAnHAmWAmSHAnSAnAmHAfVOWEL SIGN AAqIrIqUrUqVOCALIC RzRyLzLqEqAIqOqAUfSIGN VIRAMAkCANDRABINDUkA
  NUSVARAkVISARGAkNUKTAkAVAGRAHAkFINAL ANUSVARAfOMfSIDDHIfDANDAgOUBLE DANDAfCOMMAfGAP FILLERfABBREVI
  ATION SIGNfDIGIT ZEROlONElTWOmHREElFOURmIVElSIXmEVENlEIGHTlNINEgOUBLE COMMAfPLACEHOLDER MARK+1145d
  .fINSERTION SIGNfSANDHI MARKfLETTER VEDIC ANUSVARAfSIGN JIHVAMULIYAkUPADHMANIYA+11480.aTIRHUTA ANJ
  IiLETTER AqApIqIpUqUpVOCALIC RyRxLyLpEpAIpOpAUpKAqHApGAqHApNGApCAqHApJAqHApNYApTTArHApDDArHApNNApT
  AqHApDAqHApNApPAqHApBAqHApMApYApRApLApVApSHAqSAqApHAiVOWEL SIGN AAtIuItUuUtVOCALIC RzC RRzC LzC LL
  tEtSHORT EtAItOtSHORT OtAUiSIGN CANDRABINDUnANUSVARAnVISARGApRAMAnNUKTAnAVAGRAHAiGVANGiABBREVIATIO
  N SIGNiOM+114d0.iDIGIT ZEROoONEoTWOpHREEoFOURpIVEoSIXpEVENoEIGHToNINE+11580.aSIDDHAM LETTER AqApIq
  IpUqUpVOCALIC RyRxLyLpEpAIpOpAUpKAqHApGAqHApNGApCAqHApJAqHApNYApTTArHApDDArHApNNApTAqHApDAqHApNApP
  AqHApBAqHApMApYApRApLApVApSHAqSAqApHAiVOWEL SIGN AAtIuItUuUtVOCALIC RzC RR+115b8.tEtAItOtAUiSIGN C
  ANDRABINDUnANUSVARAnVISARGApRAMAnNUKTAnSIDDHAMiDANDAjOUBLE DANDAiSEPARATOR DOTsBARiREPETITION MARK
  -1y2y3iEND OF TEXT MARKiSECTION MARK WITH TRIDENT AND U-SHAPED ORNAMENTSz TRIDENT AND DOTTED CRESC
  ENTSz RAYS AND DOTTED CRESCENTSz RAYS AND DOTTED DOUBLE CRESCENTSz RAYS AND DOTTED TRIPLE CRESCENT
  SvDOUBLE RINGzLE RING WITH RAYSvWITH DOUBLE CRESCENTSz TRIPLE CRESCENTSz QUADRUPLE CRESCENTSz SEPT
  UPLE CRESCENTSz CIRCLES AND RAYSz CIRCLES AND TWO ENCLOSURESz CIRCLES AND FOUR ENCLOSURESiLETTER T
  HREE-CIRCLE ALTERNATE IqWO-CIRCLE ALTERNATE Iz ALTERNATE IIpALTERNATE UiVOWEL SIGN ALTERNATE UzATE
   UU+11600.aMODI LETTER AnAmInImUnUmVOCALIC RvRuLvLmEmAImOmAUmKAnHAmGAnHAmNGAmCAnHAmJAnHAmNYAmTTAoH
  AmDDAoHAmNNAmTAnHAmDAnHAmNAmPAnHAmBAnHAmMAmYAmRAmLAmVAmSHAnSAnAmHAmLLAfVOWEL SIGN AAqIrIqUrUqVOCAL
  IC RzRyLzLqEqAIqOqAUfSIGN ANUSVARAkVISARGAmRAMAkARDHACANDRAfDANDAgOUBLE DANDAfABBREVIATION SIGNfSI
  GN HUVA+11650.fDIGIT ZEROlONElTWOmHREElFOURmIVElSIXmEVENlEIGHTlNINE+11660.cNGOLIAN BIRGA WITH ORNA
  MENTkROTATED BIRGAkDOUBLE BIRGA WITH ORNAMENTkTRIPLE BIRGA WITH ORNAMENTkBIRGA WITH DOUBLE ORNAMEN
  TkROTATED BIRGA WITH ORNAMENTzITH DOUBLE ORNAMENTkINVERTED BIRGAy WITH DOUBLE ORNAMENTkSWIRL BIRGA
  v WITH ORNAMENTzH DOUBLE ORNAMENTkTURNED SWIRL BIRGA WITH DOUBLE ORNAMENT+11680.aTAKRI LETTER AoAn
  IoInUoUnEnAInOnAUnKAoHAnGAoHAnNGAnCAoHAnJAoHAnNYAnTTApHAnDDApHAnNNAnTAoHAnDAoHAnNAnPAoHAnBAoHAnMAn
  YAnRAnLAnVAnSHAoAnHAnRRAgSIGN ANUSVARAlVISARGAgVOWEL SIGN AArIsIrUsUrErAIrOrAUgSIGN VIRAMAlNUKTAgL
  ETTER ARCHAIC KHAgABBREVIATION SIGN+116c0.gDIGIT ZEROmONEmTWOnHREEmFOURnIVEmSIXnEVENmEIGHTmNINE+11
  700.aAHOM LETTER KAnHAmNGAnAmTAmALTERNATE TAmPAnHAmBAmMAmJAmCHAmTHAmRAmLAmSAmNYAmHAmAmDAnHAmGAmALT
  ERNATE GAmGHAmBHAmJHAmALTERNATE BA+1171d.fCONSONANT SIGN MEDIAL LAzL RAzL LIGATING RAfVOWEL SIGN A
  rAqIrIqUrUqEqAWqOqAIrMfSIGN KILLER+11730.fDIGIT ZEROlONElTWOmHREElFOURmIVElSIXmEVENlEIGHTlNINEfNUM
  BER TENnWENTYfSIGN SMALL SECTIONlECTIONkRULAIgYMBOL VIfLETTER CAmTTAoHAmDDAoHAmNNAmLLA+11800.aDOGR
  A LETTER AoAnIoInUoUnEnAInOnAUnKAoHAnGAoHAnNGAnCAoHAnJAoHAnNYAnTTApHAnDDApHAnNNAnTAoHAnDAoHAnNAnPA
  oHAnBAoHAnMAnYAnRAnLAnVAnSHAoSAoAnHAnRRAgVOWEL SIGN AArIsIrUsUrVOCALIC RzRRrErAIrOrAUgSIGN ANUSVAR
  AlVISARGAnRAMAlNUKTAgABBREVIATION SIGN+118a0.aWARANG CITI CAPITAL LETTER NGAAzR AzR WIzR YUzR YAzR
   YOzR IIzR UUzR EzR OzR ANGzR GAzR KOzR ENYzR YUJzR UCzR ENNzR ODDzR TTEzR NUNGzR DAzR ATzR AMzR B
  UzR PUzR HIYOzR HOLOzR HORRzR HARzR SSUUzR SIIzR VIYOmSMALL LETTER NGAAzAzWIzYUzYAzYOzIIzUUzEzOzAN
  GzGAzKOzENYzYUJzUCzENNzODDzTTEzNUNGzDAzATzAMzBUzPUzHIYOzHOLOzHORRzHARzSSUUzSIIzVIYOmDIGIT ZEROsONE
  sTWOtHREEsFOURtIVEsSIXtEVENsEIGHTsNINEmNUMBER TENuWENTYuHIRTYtFORTYuIFTYtSIXTYuEVENTYtEIGHTYtNINET
  Y+118ff.mOMaDIVES AKURU LETTER AuAtIuItUuUtE+11909.tO+1190c.tKAuHAtGAuHAtNGAtCAuHAtJA+11915.tNYAtT
  TA+11918.tDDAvHAtNNAtTAuHAtDAuHAtNAtPAuHAtBAuHAtMAtYAuYAtRAtLAtVAtSHAuSAuAtHAtLLAtZAmVOWEL SIGN AA
  xIyIxUyUxE+11937.xAIxO+1193b.mSIGN ANUSVARArCANDRABINDUrHALANTAmVIRAMAmPREFIXED NASAL SIGNmMEDIAL 
  YAmINITIAL RAmMEDIAL RAmSIGN NUKTAmDOUBLE DANDAmGAP FILLERmEND OF TEXT MARK+11950.mDIGIT ZEROsONEs
  TWOtHREEsFOURtIVEsSIXtEVENsEIGHTsNINE+119a0.aNANDINAGARI LETTER AuAtIuItUuUtVOCALIC RzC RR+119aa.t
  EtAItOtAUtKAuHAtGAuHAtNGAtCAuHAtJAuHAtNYAtTTAvHAtDDAvHAtNNAtTAuHAtDAuHAtNAtPAuHAtBAuHAtMAtYAtRAtLA
  tVAtSHAuSAuAtHAtLLAtRRAmVOWEL SIGN AAxIyIxUyUxVOCALIC RzCALIC RR+119da.xExAIxOxAUmSIGN ANUSVARArVI
  SARGAtRAMArAVAGRAHArSIDDHAMmHEADSTROKEmVOWEL SIGN PRISHTHAMATRA E+11a00.aZANABAZAR SQUARE LETTER A
  rVOWEL SIGN IzGN UEzGN UzGN EzGN OEzGN OzGN AIzGN AUzGN REVERSED IxLENGTH MARKrLETTER KAzHAyGAzHAy
  NGAyCAzHAyJAyNYAyTTAzTHAyDDAzDHAyNNAyTAzHAyDAzHAyNAyPAzHAyBAzHAyMAyTSAzSHAyDZAzZHAyZHAzAy-AyYAyRAy
  LAyVAySHAzSAzAyHAyKSSArFINAL CONSONANT MARKrSIGN VIRAMAwCANDRABINDUzDRABINDU WITH ORNAMENTzDRA WIT
  H ORNAMENTwANUSVARAwVISARGArCLUSTER-INITIAL LETTER RAzFINAL LETTER YAzFINAL LETTER RAzFINAL LETTER
   LAzFINAL LETTER VArINITIAL HEAD MARKrCLOSING HEAD MARKrMARK TSHEGwSHADwDOUBLE SHADwLONG TSHEGrINI
  TIAL DOUBLE-LINED HEAD MARKrCLOSING DOUBLE-LINED HEAD MARKrSUBJOINER+11a50.aSOYOMBO LETTER AiVOWEL
   SIGN ItUEutEtOuEtAIuUtVOCALIC RzC LoLENGTH MARKiLETTER KAqHApGAqHApNGApCAqHApJAqHApNYApTTArHApDDA
  rHApNNApTAqHApDAqHApNApPAqHApBAqHApMApTSArHApDZApZHAqAp-ApYApRApLApVApSHAqSAqApHApKSSAiSIGN JIHVAM
  ULIYAnUPADHMANIYAiCLUSTER-INITIAL LETTER RAzETTER LAzETTER SHAzETTER SAiFINAL CONSONANT SIGN GzIGN
   KzIGN NGzIGN DzIGN NzIGN BzIGN MzIGN RzIGN LzIGN SHzIGN SzIGN -AiSIGN ANUSVARAnVISARGAiGEMINATION
   MARKiSUBJOINERiMARK TSHEGnSHADnDOUBLE SHADnPLUTAiHEAD MARK WITH MOON AND SUN AND TRIPLE FLAMEzON 
  AND SUN AND FLAMEzON AND SUNiTERMINAL MARK-1w2+11ab0.aCANADIAN SYLLABICS NATTILIK HIzIK HIIzIK HOz
  IK HOOzIK HAzIK HAAzIK SHRIzIK SHRIIzIK SHROzIK SHROOzIK SHRAzIK SHRAAtSPEvIvOvAaPAU CIN HAU LETTE
  R PAtKAtLAtMAtDAtZAtVAtNGAtHAtGAtKHAtSAtBAtCAtTAuHAtNAtPHAtRAtFAtCHAtAtEtItOtUuAtIAtFINAL PzKzTzMz
  NzLzWzNGzYmRISING TONE LONGxmSANDHI GLOTTAL STOPmRISING TONE LONG FINALyFINALmSANDHI GLOTTAL STOP 
  FINALtTONE LONGxx LONG FINALyFINALmMID-LEVEL TONEmGLOTTAL STOP VARIANTmMID-LEVEL TONE LONG FINALzE
   FINALmLOW-FALLING TONE LONGzONEmGLOTTAL STOPmLOW-FALLING TONE LONG FINALzONE FINALmGLOTTAL STOP F
  INAL+11c00.aBHAIKSUKI LETTER AsArIsIrUsUrVOCALIC RzRRzL+11c0a.rErAIrOrAUrKAsHArGAsHArNGArCAsHArJAs
  HArNYArTTAtHArDDAtHArNNArTAsHArDAsHArNArPAsHArBAsHArMArYArRArLArVArSHAsSAsArHAkVOWEL SIGN AAvIwIvU
  wUvVOCALIC RzLIC RRzLIC L+11c38.vEvAIvOvAUkSIGN CANDRABINDUpANUSVARApVISARGArRAMApAVAGRAHAkDANDAlO
  UBLE DANDAkWORD SEPARATORkGAP FILLER-1v2+11c50.kDIGIT ZEROqONEqTWOrHREEqFOURrIVEqSIXrEVENqEIGHTqNI
  NEkNUMBER ONErTWOsHREErFOURsIVErSIXsEVENrEIGHTrNINErTENsWENTYsHIRTYrFORTYsIFTYrSIXTYsEVENTYrEIGHTY
  rNINETYkHUNDREDS UNIT MARK+11c70.aMARCHEN HEAD MARKiMARK SHADiLETTER KAqHApGApNGApCAqHApJApNYApTAq
  HApDApNApPAqHApBApMApTSArHApDZApWApZHAqAp-ApYApRApLApSHAqApHApA+11c92.iSUBJOINED LETTER KAzKHAzGAz
  NGAzCAzCHAzJAzNYAzTAzTHAzDAzNAzPAzPHAzBAzMAzTSAzTSHAzDZAzWAzZHAzZA+11ca9.zYAzRAzLAzSHAzSAzHAzAiVOW
  EL SIGN AAtItUtEtOiSIGN ANUSVARAnCANDRABINDU+11d00.cSARAM GONDI LETTER AwAvIwIvUwUvE+11d08.vAIvO+1
  1d0b.vAUvKAwHAvGAwHAvNGAvCAwHAvJAwHAvNYAvTTAxHAvDDAxHAvNNAvTAwHAvDAwHAvNAvPAwHAvBAwHAvMAvYAvRAvLAv
  VAvSHAwSAwAvHAvLLAvKSSAvJNYAvTRAoVOWEL SIGN AAzIzIIzUzUUzVOCALIC R+11d3a.zE+11d3c.zAIzO+11d3f.zAUo
  SIGN ANUSVARAtVISARGAtNUKTAtCANDRAtHALANTAoVIRAMAoREPHApA-KARA+11d50.oDIGIT ZEROuONEuTWOvHREEuFOUR
  vIVEuSIXvEVENuEIGHTuNINE+11d60.aGUNJALA GONDI LETTER AwAvIwIvUwU+11d67.vEEvAI+11d6a.vOOvAUvYAvVAvB
  AwHAvMAvKAwHAvTAwHAvLAvGAwHAvDAwHAvNAvCAwHAvTTAxHAvLLAvJAwHAvDDAxHAvNGAvPAwHAvHAvRAvSAoVOWEL SIGN 
  AAzIzIIzUzUU+11d90.zEEzAI+11d93.zOOzAUoSIGN ANUSVARAtVISARGAoVIRAMAoOM+11da0.oDIGIT ZEROuONEuTWOvH
  REEuFOURvIVEuSIXvEVENuEIGHTuNINE+11ee0.aMAKASAR LETTER KApGApNGApPApBApMApTApDApNApCApJApNYApYApRA
  pLApVApSApAiANGKAiVOWEL SIGN ItUtEtOiPASSIMBANGiEND OF SECTION+11fb0.aLISU LETTER YHA+11fc0.aTAMIL
   FRACTION ONE THREE-HUNDRED-AND-TWENTIETHtONE-HUNDRED-AND-SIXTIETHtEIGHTIETHtSIXTY-FOURTHtFORTIETH
  tTHIRTY-SECONDpTHREE EIGHTIETHSvSIXTY-FOURTHSpONE TWENTIETHtSIXTEENTH-1zNTH-2tTENTHtEIGHTHpTHREE T
  WENTIETHSvSIXTEENTHSpONE FIFTHtQUARTERtHALF-1y2pTHREE QUARTERSpDOWNSCALING FACTOR KIIZHgSIGN NELlC
  EVITUlAAZHAAKKUlUZHAKKUlMUUVUZHAKKUlKURUNIlPATHAKKUlMUKKURUNIlKAACUlPANAMmONlVARAAKANlPAARAMlKUZHI
  lVELIgWET CULTIVATION SIGNgDRY CULTIVATION SIGNgLAND SIGNgSALT PAN SIGNgTRADITIONAL CREDIT SIGNsNU
  MBER SIGNgCURRENT SIGNgAND ODD SIGNgSPENT SIGNgTOTAL SIGNgIN POSSESSION SIGNgSTARTING FROM SIGNhIG
  N MUTHALIYAlVAKAIYARAA+11fff.gPUNCTUATION END OF TEXTaCUNEIFORM SIGN Aq TIMES AxBADxGAN2 TENUxHAxI
  GIxLAGAR GUNUxMUSHxSAGq2qBr TIMES ASH2yDUN3 GUNUyGALzAN2 TENUyHAyIGI GUNUzMINyLAGABySHESHyU PLUS U
   PLUS UsGUNUr2s TIMES BALAGzGAN2 TENUzME PLUS ENzSHA3zTAK4qDqKr TIMES ERIN2ySHITA PLUS GISHqLr TIM
  ES ALyDIM2yGISHyHAyKAD3zIySHEyUSHrANrEPHqMARt TIMES SHEqNr OVER ANsTHREE TIMESsPLUS NAGA OPPOSING 
  AN PLUS NAGAzGA SQUAREDrSHEqPINqRADt TIMES KURrKABqSAL2rHs ZIDA TENUtKABA TENUtOVER ASH TUG2 OVER 
  TUG2 TUG2 OVER TUG2 PAPzSH OVER ASHzSH OVER ASH CROSSING ASH OVER ASH OVER ASHs2sGABpBArDrG3rHAR2r
  Ls OVER BALsAGrRsA2qIr TIMES AyGARyIGI GUNUqUr OVER BU ABz UNsCROSSING BUrLUGu OVER BULUGrRs2pDArG
  s KISIM5 TIMES A PLUS MASHz TIMES AMARz TIMES BALAGz TIMES BIz TIMES GAz TIMES GA PLUS MASHz TIMES
   GIz TIMES GIR2z TIMES GUDz TIMES HAz TIMES IRz TIMES IR PLUS LUz TIMES KAKz TIMES LAz TIMES LUz T
  IMES LU PLUS MASH2z TIMES LUMz TIMES NEz TIMES PAP PLUS PAPz TIMES SIz TIMES TAK4z TIMES U2 PLUS G
  IR2z TIMES USHrMrRsA3t4qIrBrMs TIMES SHEs2rNs KASKAL U GUNU DISHrSHqUr OVER DUsGUNUsSHESHIGrBs TIM
  ES ESH2s2rGsUDrHrNs3t GUNUy GUNUs4rR2pEq TIMES PAPrOVER E NUN OVER NUNq2r TIMES A PLUS HA PLUS DAy
  GARyMIySALzHEyUqDINqGIRqLqNr TIMES GAN2zAN2 TENUyMEsCROSSING ENsOPPOSING ENsSQUAREDqRENrIN2qSH2qZE
  Nt TIMES Az A PLUS LALz A PLUS LAL TIMES LALz ANz BADz DUN3 GUNUz DUN3 GUNU GUNUz HAz HA GUNUz IGI
   GUNUz KASKALz KASKAL SQUAREDz KU3z LAz LAL TIMES LALz LIz LUz U2z UDpGAr GUNUr2s TIMES A PLUS DA 
  PLUS HAzA PLUS HAzA PLUS IGIzAB2 TENU PLUS TABzANzASHzASH2 PLUS GALzBADzBAR PLUS RAzBURzBUR PLUS R
  AzDAzDIzDIM TIMES SHEzDUBzELzEL PLUS LAzENzEN TIMES GAN2 TENUzGAN2 TENUzGARzGIzGI4zGI4 PLUS AzGIR2
   PLUS SUzHA PLUS LU PLUS ESH2zHALzHAL PLUS LAzHI PLUS LIzHUB2zIGI GUNUzISH PLUS HU PLUS ASHzKAKzKA
  SKALzKIDzKID PLUS LALzKU3 PLUS ANzLAzME PLUS ENzMIzNUNzNUN OVER NUNzPAzSALzSARzSHEzSHE PLUS TURzSH
  IDzSUMzTAK4zUzUDzUD PLUS DUtOVER GA2rBAt CROSSING GABArDs OVER GAD GAR OVER GARrLs GAD OVER GAD GA
  R OVER GARsAMrMrNs2t TENUuOVER GAN2uCROSSING GAN2rRs3rSHANqESHTINw TIMES KURqIr TIMES EyUsCROSSING
   GIr4s OVER GI4tCROSSING GI4rDIMrR2t GUNUs3t TIMES A PLUS IGIz GAN2 TENUz IGIz LU PLUS IGIz PArSAL
  sHt CROSSING GISHuTIMES BADz TAK4vENUqUr CROSSING GUr2s TIMES KAKzKAK TIMES IGI GUNUzNUNzSAL PLUS 
  TUG2tGUNUrDs TIMES A PLUS KURzKURtOVER GUD LUGALrLrMs TIMES SHErRs7sUNtSHpHAr TENUsGUNUrLqIr TIMES
   ASHzSH2yBADyDISHyGADyKINyNUNySHEyUqUrB2t TIMES ANz HALz KASKALz LISHz UDrL2pIq AqBqDIMt OVER IDIM
   BURzIDIM SQUAREDqGrIs DIBtRItOVER IGI SHIR OVER SHIR UD OVER UDtGUNUqLr TIMES GAN2 TENUr2qMr TIME
  S TAK4sCROSSING IMsOPPOSING IMsSQUAREDrINqNqRqSHpKAr TIMES AzDzD PLUS KU3zSH2yBADzALAGzARzIyERIN2z
  SH2yGAzALzAN2 TENUzARzAR PLUS SHA3 PLUS AzIzIR2zISH PLUS SARzISH CROSSING GISHzUzUR7yIGIzMyKAKzIzI
  DyLIzUyMEzE PLUS DUzE PLUS GIzE PLUS TEzIzI PLUS NUNUZyNEzUNyPIyRUySAzARzHAzHEzHIDzHUzIGzUHURyTARy
  Uz2zDzMUM TIMES PAzSHyZIr2s CROSSING KA2rBrD2s3s4s5t OVER KAD5rKs TIMES IGI GUNUrLs TIMES BADtCROS
  SING KALrM2s4rSKALv LAGAB TIMES U OVER LAGAB TIMES UwOVER KASKAL LAGAB TIMES U OVER LAGAB TIMES Uq
  ESH2qIr TIMES BADyUzDrDrNrSALsHsIM5v OVER KISIM5qUr OVER HI TIMES ASH2 KU OVER HI TIMES ASH2r3r4s 
  VARIANT FORMr7rLs GUNUrNrRs OPPOSING KURrSHU2qWU318pLArGABu TIMES AzS A PLUS DA PLUS HAzS A PLUS G
  ARzS A PLUS LALzS ALzS ANzS ASH ZIDA TENUzS BADzS BIzS DARzS ENzS GAzS GARzS GUDzS GUD PLUS GUDzS 
  HAzS HALzS HI TIMES NUNzS IGI GUNUzS IMzS IM PLUS HAzS IM PLUS LUzS KIzS KINzS KU3zS KULzS KUL PLU
  S HI PLUS AzS LAGABzS LISHzS LUzS LULzS MEzS ME PLUS ENzS MUSHzS NEzS SHE PLUS SUMzS SHITA PLUS GI
  SH PLUS ERIN2zS SHITA PLUS GISH TENUzS SHU2zS SHU2 PLUS SHU2zS SUMzS TAGzS TAK4zS TE PLUS A PLUS S
  U PLUS NAzS UzS U PLUS AzS U PLUS U PLUS UzS U2 PLUS ASHzS UDzS USHvSQUAREDtRu TIMES SHEzS SHE PLU
  S SUMvGUNUz OVER LAGAR GUNU SHErHSHUrLs TIMES LALrMs TIMES KURzKUR PLUS RUqIrLrMMU2rSHqUr TIMES BA
  Dr2s TIMES ALzBADzESH2zESH2 TENUzGAN2 TENUzHI TIMES BADzIMzKAD2zKAD3zKAD3 PLUS ASHzKIzLA PLUS ASHz
  LAGABzME PLUS ENzNEzNUzSI PLUS ASHzSIK2 PLUS BUzTUG2uENUtCROSSING LU2tOPPOSING LU2tSQUAREDuHESHIGr
  3rGALu OVER LUGALwPPOSING LUGALvSHESHIGrHrLrMs OVER LUMzUM GAR OVER GARpMAr TIMES TAK4sGUNUr2rHrRr
  SHt2qErSqIrNqUr OVER MUrGs GUNUrNSUBrRGU2rSHt TIMES Az KURz ZAuOVER MUSHzMUSH TIMES A PLUS NAuCROS
  SING MUSHt3u TIMES AzS A PLUS DIzS DIvGUNUpNAr2rGAt INVERTEDuTIMES SHU TENUuOPPOSING NAGAtRrM NUTI
  LLUss2qEr TIMES AyUDsSHESHIGqIr TIMES Er2rMs TIMES GAN2 TENUzGAR PLUS GAN2 TENUrNDA2v TIMES ANzES 
  ASHzES ASH PLUS ASHzES GUDzES ME PLUS GAN2 TENUzES NEzES NUNzES SHEzES SHE PLUS A ANzES SHE PLUS A
  SHzES SHE PLUS ASH PLUS ASHzES U2 PLUS ASHzES USHrSAGqUr11rNs LAGAR TIMES GARzTIMES MASHzTIMES SAL
  zTIMES SAL OVER NUN LAGAR TIMES SALzTIMES USHtTENUtOVER NUNtCROSSING NUNzNG NUN LAGAR OVER LAGARsU
  Zu AB2 TIMES ASHGABzTIMES BIzTIMES DUGzTIMES GUDzTIMES IGI GUNUzTIMES KAD3zTIMES LAzTIMES NEzTIMES
   SILA3zTIMES U2vKISIM5 TIMES BIzM5 TIMES BI UpPArDrNrPqESH2qIr TIMES AzByBIzUyEyIzByUz2sCROSSING P
  IrRIGu TIMES KALzS UDzS ZAvOPPOSING PIRIGpRArBqIqUpSArG NUTILLUss TIMES AzDUzDUBzHAzKAKzKURzLUMzMI
  zNUNzSALzSHIDzTABzU2zUBzUMzURzUSHtOVER SAGtGUNUrLs LAGAB TIMES ASH2rNGA2rRqHAs3t TIMES Az BADz GIS
  Hz NEz SHU2z TURz Uz U PLUS As6sB6sR2rEs HUtOVER SHE GAD OVER GAD GAR OVER GARzHE TAB OVER TAB GAR
   OVER GARsG9sNsSHu2uLAMrIDt TIMES Az IMsMt TIMES Az BALz BULUGz DINz GARz IGIz IGI GUNUz KUSHU2z L
  ULz MUGz SALsNIGsRt TENUuOVER SHIR BUR OVER BURsTArUs OVER INVERTED SHUs2sBURqIr GUNUrGs4t OVER SI
  G4 SHU2rK2rLA3qUr OVER SUrDs2rHURrMsASHrRs9pTAr ASTERISKsTIMES HIyMIsGUNUrBs OVER TAB NI OVER NI D
  ISH OVER DISHtSQUAREDrGs TIMES BIzGUDzSHEzSHUzTUG2zUDrK4rRqEr GUNUqIr TENUrLrRs TIMES TAK4tOVER TI
  RzIR GAD OVER GAD GAR OVER GARqUrG2rKrMrRs OVER TUR ZA OVER ZApUq GUDrU UrOVER U PA OVER PA GAR OV
  ER GARySUR OVER SURyU REVERSED OVER U REVERSEDq2qBqDr KUSHU2sTIMES BADyMIyU PLUS U PLUS Uz PLUS U 
  PLUS U GUNUsGUNUsSHESHIGz TIMES BADrUGqMr TIMES LAGAByME PLUS DAySHA3yUrBINrUMt TIMES KASKALz PAqN
  r GUNUqRr CROSSING URsSHESHIGr2s TIMES A PLUS HAzA PLUS NAzALzHAzNUNzU2zU2 PLUS ASHzU2 PLUS BIr4rI
  s3rUs TIMES AzASHGABzBARzDUNzGAzGALzGAN2 TENUzGARzGUzHAzIGIzIMzISHzKIzLUMzMINzPAzSHEzSIG4zTUzU PLU
  S GUDzUDzURUDAsDAu TIMES UqSHs TIMES AzKUzKURzTAK4sXs2sUMXqTUKIqZ3s TIMES KASKALrUpZAr TENUsSQUARE
  D TIMES KURrGrMXqE2qIr OVER ZIr3rBs KABA TENUrGrZ2qUr5s TIMES ArBURrMpKAP ELAMITEpAB TIMES NUNr2 T
  IMES AqMAR TIMES KUGpDAG KISIM5 TIMES U2 PLUS MASHs3qISH PLUS SHUqUB TIMES SHEpEZEN TIMES GUDz SHE
  pGA2 TIMES AN PLUS KAK PLUS AzASH2qE22qIGpHUSHpKA TIMES ANSHEzSH3yGISHzUDyHI TIMES ASH2yLUMyPAySHU
  LyTUyUR2pLAGAB TIMES GIqU2 SHESHIG TIMES BADtTIMES ESH2 PLUS LALzSHUpMESHqUSH3 TIMES ZApNA4qINs9sD
  A2 TIMES BALzES GIqU11 ROTATED NINETY DEGREESpPESH2 ASTERISKqIR2pSAG TIMES IGI GUNUpTI2pUM TIMES M
  Eq U+12400.kNUMERIC SIGN TWO ASHyHREE ASHxFOUR ASHyIVE ASHxSIX ASHyEVEN ASHxEIGHT ASHxNINE ASHxTHR
  EE DISHxFOUR DISHyIVE DISHxSIX DISHyEVEN DISHxEIGHT DISHxNINE DISHxFOUR UyIVE UxSIX UyEVEN UxEIGHT
   UxNINE UxONE GESH2xTWO GESH2yHREE GESH2xFOUR GESH2yIVE GESH2xSIX GESH2yEVEN GESH2xEIGHT GESH2xNIN
  E GESH2xONE GESHUxTWO GESHUyHREE GESHUxFOUR GESHUyIVE GESHUxTWO SHAR2yHREE SHAR2zREE SHAR2 VARIANT
   FORMxFOUR SHAR2yIVE SHAR2xSIX SHAR2yEVEN SHAR2xEIGHT SHAR2xNINE SHAR2xONE SHARUxTWO SHARUyHREE SH
  ARUzREE SHARU VARIANT FORMxFOUR SHARUyIVE SHARUxSHAR2 TIMES GAL PLUS DISHzAR2 TIMES GAL PLUS MINxO
  NE BURUxTWO BURUyHREE BURUzREE BURU VARIANT FORMxFOUR BURUyIVE BURUxTHREE VARIANT FORM ESH16zREE V
  ARIANT FORM ESH21xFOUR VARIANT FORM LIMMUzUR VARIANT FORM LIMMU4zUR VARIANT FORM LIMMU AzUR VARIAN
  T FORM LIMMU BxSIX VARIANT FORM ASH9yEVEN VARIANT FORM IMIN3zVEN VARIANT FORM IMIN AzVEN VARIANT F
  ORM IMIN BxEIGHT VARIANT FORM USSUzGHT VARIANT FORM USSU3xNINE VARIANT FORM ILIMMUzNE VARIANT FORM
   ILIMMU3zNE VARIANT FORM ILIMMU4zNE VARIANT FORM ILIMMU AxTWO ASH TENUyHREE ASH TENUxFOUR ASH TENU
  yIVE ASH TENUxSIX ASH TENUxONE BAN2xTWO BAN2yHREE BAN2xFOUR BAN2zUR BAN2 VARIANT FORMyIVE BAN2zVE 
  BAN2 VARIANT FORMxNIGIDAMINzGIDAESHxONE ESHE3xTWO ESHE3xONE THIRD DISHxTWO THIRDS DISHxFIVE SIXTHS
   DISHxONE THIRD VARIANT FORM AxTWO THIRDS VARIANT FORM AxONE EIGHTH ASHzE QUARTER ASHyLD ASSYRIAN 
  ONE SIXTHzD ASSYRIAN ONE QUARTERyNE QUARTER GURzE HALF GURxELAMITE ONE THIRDzAMITE TWO THIRDSzAMIT
  E FORTYzAMITE FIFTYxFOUR U VARIANT FORMyIVE U VARIANT FORMxSIX U VARIANT FORMyEVEN U VARIANT FORMx
  EIGHT U VARIANT FORMxNINE U VARIANT FORM+12470.kPUNCTUATION SIGN OLD ASSYRIAN WORD DIVIDERzN VERTI
  CAL COLONzN DIAGONAL COLONzN DIAGONAL TRICOLONzN DIAGONAL QUADCOLON+12480.kSIGN AB TIMES NUN TENUy
  SHU2qD TIMES ESH2pBAD TIMES DISH TENUrHAR2 TIMES AB2zES NIzES ZAqU OVER BU TIMES NA2pDA TIMES TAK4
  rG TIMES KURqIM TIMES IGIzU U Us2 TIMES UDqUG TIMES ANSHEzASHzASH AT LEFTzDINzDUNzERIN2zGAzGIzGIR2
   GUNUzGISHzHAzHIzIGI GUNUzKASKALzKURzKUSHU2zKUSHU2 PLUS KASKALzLAK-020zLAMzLAM TIMES KURzLUH PLUS 
  GISHzMASHzMESzMIzNIzPIzSHEzSI GUNUpE2 TIMES KURyPAPqRIN2 XqSH2 CROSSING ESH2qZEN SHESHIG TIMES ASH
  zIG TIMES HIzIG TIMES IGI GUNUzIG TIMES LAzIG TIMES LALzIG TIMES MEzIG TIMES MESzIG TIMES SUuTIMES
   SUpGA2 TIMES BAHAR2zDIM GUNUzDUG TIMES IGI GUNUzDUG TIMES KASKALzERENzGAzGAR PLUS DIzGAR PLUS NEz
  HA PLUS AzKUSHU2 PLUS KASKALzLAMzLAM TIMES KURzLUHzMUSHzNEzNE PLUS E2zNE PLUS GIzSHIMzZIZ2rBA ROTA
  TED NINETY DEGREESqESHTIN TIMES UqISH TIMES GISH CROSSING GISHqU2 TIMES IGI GUNUrD PLUS GISH TIMES
   TAK4pHA TENU GUNUqI TIMES ASH OVER HI TIMES ASHpKA TIMES BUyKAyU U UzRpLAGAB TIMES ZU OVER ZUrK-0
  03u21v5u30u50v1u62u79 OVER LAK-079 GUNUu80v1 OVER LAK-081u92t130u42t210v9u20v5v8u38u65v6t343v7v8u8
  3v4u90t441v9w TIMES GUzMES IGIzMES PAP PLUS LU3zMES PAP PLUS PAP PLUS LU3zMES U2 PLUS BAu50v7u70u8
  3u90v2v3v5t550t608u17w TIMES ASHzMES BADzMES DUN3 GUNU GUNUzMES KU3zMES LAzMES TARzMES TEzMES U2zM
  ES UDzMES URUDAu36u48w TIMES DUBzMES GAzMES IGIzMES IGI GUNUzMES NIzMES PAP PLUS PAP PLUS LU3zMES 
  SHESH PLUS KIzMES UDzMES URUDAt724u49qU2 GUNU TIMES ASHtTIMES DISHzHALzPAPzPAP PLUS PAP PLUS LU3zT
  AK4pMI PLUS ZA7qUSH OVER MUSH TIMES GAzMUSH TIMES KAKpNINDA2 TIMES DIM GUNUzES GISHzES GULzES HIzE
  S KESH2zES LAK-050zES MASHzES PAP PLUS PAPzES UzES U PLUS UzES URUDApSAG GUNU TIMES HAtTIMES ENzSH
  E AT LEFTzTAK4qHA6 TENUrE OVER SHEtPLUS HUB2yNAM2ySARrU2 PLUS DUG TIMES NIzE2 TIMES ANqI TIMES TAK
  4pTAK4 PLUS SAGqUM TIMES GAN2 TENUzTHREE DISHpUR2 INVERTEDtTIMES UDrU TIMES DARA3zLAK-668zLU3pZA7q
  U OVER ZU PLUS SARr5 TIMES THREE DISH TENU+12f90.bYPRO-MINOAN SIGN CM001w2w4w5w6w7w8w9v10w1w2xBw3w
  5w7w9v21w3w4w5w6w7w8w9v30w3w4w5w6w7w8w9v40w1w4w6w7w9v50w1w2w3w4w5w6w8w9v60w1w2w3w4w6w7w8w9v70w1w2w
  3w4w5xBw6w8w9v80w1w2w3w4w5w6w7w8w9v90w1w2w4w5w6w7w8w9u100w1w2w3w4w5w7w8w9v10w2w4u301w2+13000.aEGYP
  TIAN HIEROGLYPH A001x2x3x4x5yAx6yAyBx7x8x9w10x1x2x3x4yAx5x6x7yAx8x9w20x1x2x3x4x5x6x7x8x9w30x1x2yAx
  3x4x5x6x7x8x9w40yAx1x2yAx3yAx4x5yAx6x7x8x9w50x1x2x3x4x5x6x7x8x9w60x1x2x3x4x5x6x7x8x9w70uB001x2x3x4
  x5yAx6x7x8x9uC001x2yAyByCx3x4x5x6x7x8x9w10yAx1x2x3x4x5x6x7x8x9w20x1x2x3x4uD001x2x3x4x5x6x7x8yAx9w1
  0x1x2x3x4x5x6x7x8x9w20x1x2x3x4x5x6x7yAx8x9w30x1yAx2x3x4yAx5x6x7x8x9w40x1x2x3x4x5x6yAx7x8yAx9w50yAy
  ByCyDyEyFyGyHyIx1x2yAx3x4yAx5x6x7x8x9w60x1x2x3x4x5x6x7yAyByCyDyEyFyGyHuE001x2x3x4x5x6x7x8yAx9yAw10
  x1x2x3x4x5x6yAx7yAx8x9w20yAx1x2x3x4x5x6x7x8yAx9w30x1x2x3x4yAx6x7x8uF001yAx2x3x4x5x6x7x8x9w10x1x2x3
  yAx4x5x6x7x8x9w20x1yAx2x3x4x5x6x7x8x9w30x1yAx2x3x4x5x6x7yAx8yAx9w40x1x2x3x4x5yAx6yAx7yAx8x9w50x1yA
  yByCx2x3uG001x2x3x4x5x6yAx7yAyBx8x9w10x1yAx2x3x4x5x6x7x8x9w20yAx1x2x3x4x5x6yAx7x8x9w30x1x2x3x4x5x6
  yAx7yAx8x9w40x1x2x3yAx4x5yAx6x7x8x9w50x1x2x3x4uH001x2x3x4x5x6yAx7x8uI001x2x3x4x5yAx6x7x8x9yAw10yAx
  1yAx2x3x4x5uK001x2x3x4x5x6x7x8uL001x2yAx3x4x5x6yAx7x8uM001yAyBx2x3yAx4x5x6x7x8x9w10yAx1x2yAyByCyDy
  EyFyGyHx3x4x5yAx6yAx7yAx8x9w20x1x2yAx3x4yAx5x6x7x8yAx9w30x1yAx2x3yAyBx4x5x6x7x8x9w40yAx1x2x3x4uN00
  1x2x3x4x5x6x7x8x9w10x1x2x3x4x5x6x7x8yAyBx9w20x1x2x3x4x5yAx6x7x8x9w30x1x2x3yAx4yAx5yAx6x7yAx8x9w40x
  1x2vL001y2y3y4y5zAy6y7y8y9x10y1y2y3y4y5y6y7zAy8y9x20vU001y2y3y4y5y6y7y8y9x10zAy1zAy2y3y4y5y6y7y8zA
  y9x20y1y2zAuO001yAx2x3x4x5yAx6yAyByCyDyEyFx7x8x9w10yAyByCx1x2x3x4x5x6x7x8x9yAw20yAx1x2x3x4yAx5yAx6
  x7x8x9yAw30yAx1x2x3yAx4x5x6yAyByCyDx7x8x9w40x1x2x3x4x5x6x7x8x9w50yAyBx1uP001yAx2x3yAx4x5x6x7x8x9w1
  0x1uQ001x2x3x4x5x6x7uR001x2yAx3yAyBx4x5x6x7x8x9w10yAx1x2x3x4x5x6yAx7x8x9w20x1x2x3x4x5x6x7x8x9uS001
  x2yAx3x4x5x6yAx7x8x9w10x1x2x3x4yAyBx5x6x7yAx8x9w20x1x2x3x4x5x6yAyBx7x8x9w30x1x2x3x4x5yAx6x7x8x9w40
  x1x2x3x4x5x6uT001x2x3yAx4x5x6x7yAx8yAx9yAw10x1yAx2x3x4x5x6yAx7x8x9w20x1x2x3x4x5x6x7x8x9w30x1x2yAx3
  yAx4x5x6uU001x2x3x4x5x6yAyBx7x8x9w10x1x2x3x4x5x6x7x8x9w20x1x2x3yAx4x5x6x7x8x9yAw30x1x2yAx3x4x5x6x7
  x8x9w40x1x2uV001yAyByCyDyEyFyGyHyIx2yAx3x4x5x6x7yAyBx8x9w10x1yAyByCx2yAyBx3x4x5x6x7x8x9w20yAyByCyD
  yEyFyGyHyIyJyKyLx1x2x3yAx4x5x6x7x8yAx9yAw30yAx1yAx2x3yAx4x5x6x7yAx8x9w40yAuW001x2x3yAx4x5x6x7x8x9y
  Aw10yAx1x2x3x4yAx5x6x7yAx8yAx9w20x1x2x3x4yAx5uX001x2x3x4yAyBx5x6yAx7x8yAuY001yAx2x3x4x5x6x7x8uZ001
  x2yAyByCyDx3yAyBx4yAx5yAx6x7x8x9w10x1x2x3x4x5yAyByCyDyEyFyGyHyIx6yAyByCyDyEyFyGyHuAA001y2y3y4y5y6y
  7zAzBy8y9x10y1y2y3y4y5y6y7y8y9x20y1y2y3y4y5y6y7y8y9x30y1y2+13430.uVERTICAL JOINERuHORIZONTAL JOINE
  RuINSERT AT TOP STARTzT AT BOTTOM STARTzT AT TOP ENDzT AT BOTTOM ENDuOVERLAY MIDDLEuBEGIN SEGMENTu
  END SEGMENT+14400.aANATOLIAN HIEROGLYPH A001y2y3y4y5y6y7y8y9x10zAy1y2y3y4y5y6y7y8y9x20y1y2y3y4y5y6
  zAy7y8y9x30y1y2y3y4y5y6y7y8y9zAx40y1zAy2y3y4y5zAy6zAzBy7y8y9x50y1y2y3y4y5y6y7y8y9x60y1y2y3y4y5y6zA
  zBzCy7y8y9x70y1y2y3y4y5y6y7y8y9x80y1y2y3y4y5y6y7y8y9x90y1y2y3y4y5y6y7zAy8zAy9w100zAy1zAy2zAy3y4zAz
  BzCy5zAzBy6y7zAzBzCy8y9x10zAzBy1y2y3y4y5zAy6y7y8y9x20y1y2y3y4y5zAy6y7y8y9x30y1y2y3y4y5zAy6y7y8y9x4
  0y1y2y3y4y5y6y7y8y9x50y1y2y3y4y5y6y7y8y9x60y1y2y3y4y5y6y7y8y9x70y1y2y3y4y5y6y7y8y9x80y1y2y3y4y5y6y
  7y8y9x90y1y2y3y4y5y6y7y8y9w200y1y2zAzBy3y4y5y6y7zAy8y9zAx10y1y2y3y4y5zAy6zAy7y8y9x20y1y2y3y4y5y6y7
  zAy8y9x30y1y2y3y4y5y6y7y8y9x40y1y2y3y4y5y6y7y8y9x50y1y2y3y4y5y6y7y8y9x60y1y2y3y4y5y6y7zAy8y9x70y1y
  2y3y4y5y6y7y8y9x80y1y2y3y4y5y6y7y8y9zAx90y1y2y3y4zAy5y6y7y8y9zAw300y1y2y3y4y5y6y7y8y9zAx10y1y2y3y4
  y5y6y7y8y9x20y1y2y3y4y5y6y7y8y9zAx30y1y2AzBzCy3y4y5y6zAzBzCy7y8y9x40y1y2y3y4y5y6y7y8y9x50y1y2y3y4y
  5y6y7y8y9zAx60y1y2y3y4zAy5y6y7y8zAy9x70y1zAy2y3y4y5y6y7y8y9x80y1zAy2y3 RA OR RIzAy4y5y6zAy7y8y9x90
  y1y2y3 EIGHTy4y5y6y7y8y9w400y1y2y3y4y5y6y7y8y9x10 BEGIN LOGOGRAM MARKzA END LOGOGRAM MARKy1y2y3y4y
  5y6y7y8y9x20y1y2y3y4y5y6y7y8y9x30y1y2y3y4y5y6y7y8y9x40y1y2y3y4y5y6y7y8y9x50zAy1y2y3y4y5y6y7zAy8y9x
  60y1y2y3y4y5y6y7y8y9x70y1y2y3y4y5y6y7y8y9x80y1y2y3y4y5y6y7y8y9x90y1y2y3y4y5y6y7w501y2y3y4y5y6y7y8y
  9x10y1y2y3y4y5y6y7y8y9x20y1y2y3y4y5y6y7y8y9x30+16800.aBAMUM LETTER PHASE-A NGKUE MFONvGBIEE FONvPO
  N MFON PIPAEMGBIEEzMFON PIPAEMBAvNAA MFONvSHUENSHUETvTITA MFONvNZA MFONvSHINDA PA NJIvPON PA NJI P
  IPAEMGBIEEzPA NJI PIPAEMBAvMAEMBGBIEEvTU MAEMBAvNGANGUvMAEMVEUXxNSUAEwVEUAENGAMvSEUNYAMvNTOQPENvKE
  UKEUTNDAvNKINDIvSUUvNGKUENZEUMvLAPAQwET KUTvNTAP MFAAvMAEKEUPvPASHAEvGHEUAERAEvPAMSHAEvMON NGGEUAE
  TvNZUN MEUTvU YUQ NAEvGHEUAEGHEUAEvNTAP NTAAvSISAvMGBASAwEUNJOMNDEUQwOOMPUQvKAFAvPA LEERAEWAvNDA L
  EERAEWAvPETvMAEMKPENvNIKAvPUPvTUAEPvLUAEPvSONJAMvTEUTEUWENvMAENYIvKETvNDAANGGEUAETvKUOQvMOOMEUTvSH
  UMvLOMMAEvFIRIvROMvKPOQvSOQvMAP PIEETvSHIRAEvNTAPvSHOQ NSHUT YUMvNYIT MONGKEUAEQvPAARAEvNKAARAEvUN
  KNOWNvNGGENvMAESIvNJAMvMBANYIvNYETvTEUAENvSOTvPAAMvNSHIEEvMAEMvNYIvKAQvNSHAvVEEvLUvNENwAQvMBAQtB N
  SHUETvTU MAEMGBIEEvSIEEwET TUvLOM NTEUMvMBA MAELEEvKIEEMvYEURAEvMBAARAEvKAMvPEESHIvYAFU LEERAEWAvL
  AM NSHUT NYAMvNTIEE SHEUOQwDU NJAAvGHEUGHEUAEMvPITvTU NSIEEvSHET NJAQyUAEQTUvMFON TEUAEQwBIT MBAAK
  ETvNYI NTEUMvKEUPUQvGHEUGHENvKEUYEUXvLAANAEvPARUMvVEUMvNGKINDI MVOPxGEU MBUvWUAETvSAKEUAEvTAAMvMEU
  QvNGGUOQzOQ LARGEvMFIYAQvSUEvMBEURIwONTIEENvNYAEMAEvPUNGAAMvMEUT NGGEETvFEUXvMBUOQvFEEvKEUAEMvMA N
  JEUAENAzJUQAvLETvNGGAAMwSENvMAvKIQvNGOMtC NGKUE MAEMBAwZAvYUMvWANGKUOQvNGGENwDEUAEREEwGKAQvGHARAEv
  MBEEKEETvGBAYIvNYIR MKPARAQ MEUNwTU MBITvMBEUMvPIRIEENvNDOMBUvMBAA CABBAGE-TREEvKEUSHEUAEPvGHAPvKE
  UKAQvYU MUOMAEvNZEUMvMBUEvNSEUAENvMBITvYEUQvKPARAQwAAvSEUXvNDIDAvTAASHAEvNJUEQvTITA YUEvSUAETvNGGU
  AEN NYAMvVEUXvNANSANAQvMA KEUAERIvNTAAwGGUONvLAPvMBIRIEENwGBASAQvNTEUNGBAvTEUTEUXvNGGUMvFUEvNDEUTw
  SAxHAQvBUNGvVEUAEPENvMBERAEvRUvNJAEMvLAMvTITUAEPvNSUOT NGOMwJEEEEvKETvNGGUvMAESIwBUAEMvLUvKUTvNJAM
  wGOMvWUPvNGGUEETwSOMwTENvKUOP NKAARAEvNSUNwDAMvMA NSIEEvYAAvNDAPvSHUEQwETFONvMBIwAEMBAwBANYIvKEUSE
  UXvMBEUXvKEUMvMBAA PICKETvYUWOQvNJEUXvMIEEwUAEvSHIQvKEN LAWzFATIGUEvNGAQwAQvLIQvPINwENvTETtD MBUOv
  WAPvNJIvMFONvNJIEEvLIEEvNJEUTwSHEEwGGAAMAEwYAMvWUAENvNGKUNvSHEEvNGKAPvKEUAETMEUNvTEUTvSHEUAEvNJAPv
  SUEvKETvYAEMMAEvKUOMvSAPvMFEUTvNDEUXvMALEERIwEUTvSEUAEQvYENvNJEUAEMvKEUOT MBUAEvNGKEURIvTUvGHAAvNG
  KYEEvFEUFEUAETvNDEEvMGBOFUMvLEUAEPvNDONvMONIwGBEUNvPUUTvMGBIEEwFOvLUMvNSIEEPvMBAAvKWAETvNYETvTEUAE
  NvSOTvYUWOQvKEUMvRAEMvTEEEEvNGKEUAEQvMFEUAEvNSIEETvKEUPvPIPwEUTAEvNYUEvLETvNGGAAMvMFIEEvNGGWAENvYU
  OMvPAPvYUOPvNDAMwTEUMvSUAEvKUNvNGGEUXxKIEEvTUOTvMEUNvKUQvNSUMvTEUNvMAENJETvNGGAPvLEUMvNGGUOMwSHUTw
  JUEQvGHEUAEvKUvREN OLDvTAEwOQvNYIvRIIvLEEEEvMEEEEwvSUUvMUvSHIIxEUXvKYEEvNUvSHUvNTEEvPEEvNIvSHOQvPU
  QvMVOPvLOQvREN MUCHvTIvNTUUvMBAA SEVENvSAQvFAAtE NDAPvTOONvMBEUMvLAPvVOMvLOONvPAAvSOMvRAQvNSHUOPwD
  UNvPUAEvTAMvNGKAvKPEUXvWUOvSEEvNGGEUAETvPAAMvTOOvKUOPvLOMvNSHIEEwGOPvMAEMvNGKEUXxOQwSHUEvRIMGBAvNJ
  EUXvPEEMvSAAvNGGURAEvMGBAvGHEUXvNGKEUAEMwJAEMLIvMAPvLOOTvNGGEEEEwDIQvTAEN NTEUMvSETvPUMvNDAA SOFTN
  ESSwGGUAESHAE NYAMvYIEEvGHEUNvTUAEvYEUAEvPOvTUMAEvKEUAEvSUAENvTEUAEQvVEUAEvWEUXvLAAMvPUvTAAQvGHAAM
  AEvNGEUREUTvSHEUAEQvMGBENwBEEvNZAQwKOMvGBETvTUMvKUETvYAPvNYI CLEAVERvYITvMFEUQvNDIAQvPIEEQvYUEQvLE
  UAEMvFUEvGBEUXvNGKUPvKETvMAEvNGKAAMIvGHETvFAvNTUMvPEUTvYEUMvNGGEUAEwYI BETWEENwZUQvPOONvMIEEvFUETv
  NAEvMUAEvGHEUAEvFU IvMVIvPUAQvNGKUMvKUTvPIETvNTAPvYEUAETvNGGUPvPA PEOPLEvFU CALLwOMvNJEEvAvTOQvOvI
  vLAQvPA PLURALvTAAxQvNDAA MY HOUSEvSHIQvYEUXvNGUAEvYUAENwOQ SWIMMINGzCOVERwUQxNvKEUXvPEUXvNJEE EPO
  CHvPUEvWUEvFEEvVEEvLUvMIvREUXwAEvNGUAETxAvSHOyQvFU REMEDYvNAvPIvLOQvKOvMENwAxQvTEUvKIvMONvTENvFAQv
  GHOMtF KAvUvKUvEEvREEvTAEvNYIvLAvRIIxEEvMEEEEvTAAvNDAAwJAEMvMvSUUwHIIwIwEUXvKYEEwETvNUAExwJUAEvYOQ
  vSHUvYAvNSHAvPEUXvNTEEvWUEvPEEvRUvNIvREUXvKENvNGKWAENxGAvSHOvPUAEvFOMvWAvLIwOQvKOvMBENvRENvMAwOwBA
  AvTETvKPAvSAMBAvVUEQ+16a40.aMRO LETTER TAlNGIlYOlMIMlBAlDAlAlPHIlKHAIlHAOlDAIlCHUlKEAAElOLlMAEMlNI
  NlPAlOOmlROlSHIlTHEAlEAlWAlElKOlLANnlHAIlRIlTEK+16a60.eDIGIT ZEROkONEkTWOlHREEkFOURlIVEkSIXlEVENkE
  IGHTkNINE+16a6e.fANDAfOUBLE DANDAaTANGSA LETTER OZpCpQpXoAZpCpQpXoVZpCpQpXoEZpCpQpXoIZpCpQpXoUZpCp
  QpXoAWZqCqQqXoUIZqCqQqXoFINAL NGoLONG UEXoSHORT UEZuAWXoUECqZqQqXpIUZrCrQrXoMZpCpQpXoKApHAoGAoNGAo
  SAoYAoWAoPAoNYAoPHAoBAoMAoNAoHAoLAoHTAoTAoDAoRAoNHAoSHAoCAoTSAoGHAoHTTAoTHAoXAoFAoDHAoCHAoZA+16ac0
  .hDIGIT ZEROnONEnTWOoHREEnFOURoIVEnSIXoEVENnEIGHTnNINE+16ad0.aBASSA VAH LETTER ENNIrKArSErFArMBErY
  IErGAHrDHIIrKPAHrJOrHWAHrWArZOrGBUrDOrCErUWUrTOrBArVUrYEINrPArWADDArArOsOrUrEEsrI+16af0.kCOMBINING
   HIGH TONEuLOW TONEuMID TONEuLOW-MID TONEuHIGH-LOW TONEkFULL STOP+16b00.aPAHAWH HMONG VOWEL KEEBwV
  uIBvVuAUBwVuUBvVuEBvVuAIBwVuOOBwVuAWBwVuUABwVuOBvVuIABwVuABvVuWBvVuAABwVnCONSONANT VAUxNTSAUxLAUxH
  AUxNLAUxRAUxNKAUxQHAUxYAUxHLAUxMAUxCHAUxNCHAUxHNAUxPLHAUxNTHAUyAUxAUxXAUxCAUnMARK CIM TUBwSOwKESxH
  AVwSUAMwHOMwTAUMnSIGN VOS THOMxSHAB CEEBsCIM CHEEMsVOS THIABwFEEMsXYEEM NTXIVyRHOyTOVyFAIBsVOS SEE
  VsMEEJ SUABsVOS NRUAsIB YAMsXAUSsCIM TSOV ROG+16b50.nDIGIT ZEROtONEtTWOuHREEtFOURuIVEtSIXuEVENtEIG
  HTtNINE+16b5b.nNUMBER TENSuHUNDREDSuTEN THOUSANDSuMILLIONSuHUNDRED MILLIONSuTEN BILLIONSvRILLIONS+
  16b63.nSIGN VOS LUBsXYOOsHLIsTHIRD-STAGE HLIsZWJ THAJsHNUBsNQIGsXIABsNTUJsAVsTXHEEJ CEEVsMEEJ TSEE
  BsTAUsLOSsMUSsCIM HAIS LUS NTOG NTOGwCUAM TSHOOJwTXWVzV CHWVwPUB DAWBwNRES TOS+16b7d.nCLAN SIGN TS
  HEEJxYEEGxLISyAUJxXYOOJxKOOxHAWJxMUASxTHOJySABxPHABxKHABxHAMxVAJxFAJxYAJxTSWBxKWMxVWJ+16e40.aMEDEF
  AIDRIN CAPITAL LETTER MzR SzR VzR WzR ATIUzR ZzR KPzR PzR TzR GzR FzR IzR KzR AzR JzR EzR BzR CzR 
  UzR YUzR LzR QzR HPzR NYzR XzR DzR OEzR NzR RzR OzR AIzR YmSMALL LETTER MzSzVzWzATIUzZzKPzPzTzGzFz
  IzKzAzJzEzBzCzUzYUzLzQzHPzNYzXzDzOEzNzRzOzAIzYmDIGIT ZEROsONEsTWOtHREEsFOURtIVEsSIXtEVENsEIGHTsNIN
  EmNUMBER TENtELEVENtTWELVEuHIRTEENtFOURTEENuIFTEENtSIXTEENuEVENTEENtEIGHTEENtNINETEENmDIGIT ONE AL
  TERNATE FORMsTWO ALTERNATE FORMtHREE ALTERNATE FORMmCOMMAmFULL STOPmSYMBOL AIVAmEXCLAMATION OH+16f
  00.bIAO LETTER PAmBAmYI PAmPLAmMAnHAmARCHAIC MAmFAmVAnFAmTAmDAmYI TTAqAmTTAmDDAmNAnHAmYI NNAmARCHA
  IC NAmNNAoHAmLAnYAnHAoYAmTLHAmDLHAmTLHYAmDLHYAmKAmGAmYI KAmQAnGAmNGAoHAmARCHAIC NGAmHAmXAmGHAoHAmT
  SSAmDZZAmNYAoHAmTSHAmDZHAmYI TSHApDZHAmREFORMED TSHAmSHAnSAmZHAnSHAmTSAmDZAmYI TSAmSAmZAnSAnZAoSAm
  ARCHAIC ZZAmZZYAoSYAmWAmAHmHHAmBRImSYImDZYImTEnSEmRTE+16f4f.fSIGN CONSONANT MODIFIER BARfLETTER NA
  SALIZATIONfSIGN ASPIRATIONkREFORMED VOICINGtASPIRATIONfVOWEL SIGN ArArHHrNsGqOrOqWOrqErNsGqOEYqIrA
  sNtGrOrErIrUrNGqUrAsNtGrUrEIrNGqYrIqAEsEqERRqROUNDED ERRqERqROUNDED ERqAIqEIqAUqOUqNrGqUOGqYUIqOGr
  ERqVWqIGqEAqIONGqUI+16f8f.fTONE RIGHTkTOP RIGHTkABOVEkBELOWfLETTER TONE-2r3r4r5r6r7r8mREFORMED TON
  E-1z-2z-4z-5z-6z-8+16fe0.aTANGUT ITERATION MARKaNUSHU ITERATION MARKaOLD CHINESE HOOK MARKmITERATI
  ON MARKaKHITAN SMALL SCRIPT FILLER+16ff0.aVIETNAMESE ALTERNATE READING MARK CAzING MARK NHAY+18800
  .aTANGUT COMPONENT-001t2t3t4t5t6t7t8t9s10t1t2t3t4t5t6t7t8t9s20t1t2t3t4t5t6t7t8t9s30t1t2t3t4t5t6t7t
  8t9s40t1t2t3t4t5t6t7t8t9s50t1t2t3t4t5t6t7t8t9s60t1t2t3t4t5t6t7t8t9s70t1t2t3t4t5t6t7t8t9s80t1t2t3t4
  t5t6t7t8t9s90t1t2t3t4t5t6t7t8t9r100t1t2t3t4t5t6t7t8t9s10t1t2t3t4t5t6t7t8t9s20t1t2t3t4t5t6t7t8t9s30
  t1t2t3t4t5t6t7t8t9s40t1t2t3t4t5t6t7t8t9s50t1t2t3t4t5t6t7t8t9s60t1t2t3t4t5t6t7t8t9s70t1t2t3t4t5t6t7
  t8t9s80t1t2t3t4t5t6t7t8t9s90t1t2t3t4t5t6t7t8t9r200t1t2t3t4t5t6t7t8t9s10t1t2t3t4t5t6t7t8t9s20t1t2t3
  t4t5t6t7t8t9s30t1t2t3t4t5t6t7t8t9s40t1t2t3t4t5t6t7t8t9s50t1t2t3t4t5t6t7t8t9s60t1t2t3t4t5t6t7t8t9s7
  0t1t2t3t4t5t6t7t8t9s80t1t2t3t4t5t6t7t8t9s90t1t2t3t4t5t6t7t8t9r300t1t2t3t4t5t6t7t8t9s10t1t2t3t4t5t6
  t7t8t9s20t1t2t3t4t5t6t7t8t9s30t1t2t3t4t5t6t7t8t9s40t1t2t3t4t5t6t7t8t9s50t1t2t3t4t5t6t7t8t9s60t1t2t
  3t4t5t6t7t8t9s70t1t2t3t4t5t6t7t8t9s80t1t2t3t4t5t6t7t8t9s90t1t2t3t4t5t6t7t8t9r400t1t2t3t4t5t6t7t8t9
  s10t1t2t3t4t5t6t7t8t9s20t1t2t3t4t5t6t7t8t9s30t1t2t3t4t5t6t7t8t9s40t1t2t3t4t5t6t7t8t9s50t1t2t3t4t5t
  6t7t8t9s60t1t2t3t4t5t6t7t8t9s70t1t2t3t4t5t6t7t8t9s80t1t2t3t4t5t6t7t8t9s90t1t2t3t4t5t6t7t8t9r500t1t
  2t3t4t5t6t7t8t9s10t1t2t3t4t5t6t7t8t9s20t1t2t3t4t5t6t7t8t9s30t1t2t3t4t5t6t7t8t9s40t1t2t3t4t5t6t7t8t
  9s50t1t2t3t4t5t6t7t8t9s60t1t2t3t4t5t6t7t8t9s70t1t2t3t4t5t6t7t8t9s80t1t2t3t4t5t6t7t8t9s90t1t2t3t4t5
  t6t7t8t9r600t1t2t3t4t5t6t7t8t9s10t1t2t3t4t5t6t7t8t9s20t1t2t3t4t5t6t7t8t9s30t1t2t3t4t5t6t7t8t9s40t1
  t2t3t4t5t6t7t8t9s50t1t2t3t4t5t6t7t8t9s60t1t2t3t4t5t6t7t8t9s70t1t2t3t4t5t6t7t8t9s80t1t2t3t4t5t6t7t8
  t9s90t1t2t3t4t5t6t7t8t9r700t1t2t3t4t5t6t7t8t9s10t1t2t3t4t5t6t7t8t9s20t1t2t3t4t5t6t7t8t9s30t1t2t3t4
  t5t6t7t8t9s40t1t2t3t4t5t6t7t8t9s50t1t2t3t4t5t6t7t8t9s60t1t2t3t4t5t6t7t8+1aff0.aKATAKANA LETTER MIN
  NAN TONE-2zNE-3zNE-4zNE-5+1aff5.zNE-7zNE-8xNASALIZED TONE-1zSALIZED TONE-2zSALIZED TONE-3zSALIZED 
  TONE-4zSALIZED TONE-5+1affd.zSALIZED TONE-7zSALIZED TONE-8+1b000.qARCHAIC EaHIRAGANA LETTER ARCHAI
  C YEbENTAIGANA LETTER A-1u2u3uWOsI-1u2u3u4sU-1u2u3u4u5sE-2u3u4u5u6sO-1u2u3sKA-1v2v3v4v5v6v7v8v9v10
  w1vKEtI-1v2v3v4v5v6v7v8tU-1v2v3v4v5v6v7tE-1v2v3v4v5v6tO-1v2v3vKIsSA-1v2v3v4v5v6v7v8tI-1v2v3v4v5v6t
  U-1v2v3v4v5v6v7v8tE-1v2v3v4v5tO-1v2v3v4v5v6v7sTA-1v2v3v4tI-1v2v3v4v5v6v7tU-1v2v3v4vTOtE-1v2v3v4v5v
  6v7v8v9tO-1v2v3v4v5v6vRAsNA-1v2v3v4v5v6v7v8v9tI-1v2v3v4v5v6v7vTEtU-1v2v3tE-1v2v3v4v5v6vKOtO-1v2v3v
  4v5sHA-1v2v3v4v5v6v7v8v9v10w1tI-1v2v3v4v5v6v7tU-1v2v3tE-1v2v3v4v5v6v7tO-1v2v3v4v5v6v7v8sMA-1v2v3v4
  v5v6v7tI-1v2v3v4v5v6v7tU-1v2v3v4tE-1v2vMAtO-1v2v3v4v5v6sYA-1v2v3v4v5vYOtU-1v2v3v4tO-1v2v3v4v5v6sRA
  -1v2v3v4tI-1v2v3v4v5v6v7tU-1v2v3v4v5v6tE-1v2v3v4tO-1v2v3v4v5v6sWA-1v2v3v4v5tI-1v2v3v4v5tE-1v2v3v4t
  O-1v2v3v4v5v6v7sN-MU-MO-1z-2bIRAGANA LETTER ARCHAIC WUaKATAKANA LETTER ARCHAIC YIzEyWU+1b150.aHIRA
  GANA LETTER SMALL WIxExO+1b164.aKATAKANA LETTER SMALL WIxExOwN+1bc00.aDUPLOYAN LETTER HqXqPqTqFqKq
  LqBqDqVqGqRqP NqD SqF NqK MqR SqTHqSLOAN DHqDHqKKqSLOAN JqHLqLHqRHqMqNqJqSqM NqN MqJ MqS JqM WITH 
  DOTqN WITH DOTqJ WITH DOTzTS INSIDE AND ABOVEqS WITH DOTzT BELOWqM SqN SqJ SqS SqM N SqN M SqJ M S
  qS J SqJ S WITH DOTsNt SqS Tt RsPt RqT SsR SqWrHr RqS NsMqK R SqG R SqS Kt RqAqSLOAN OWqOArqAOUqIq
  EqIEqSHORT IqUIqEEqSLOAN EHqROMANIAN IqSLOAN EEqLONG IqYEqUqEUqXWqU NqLONG UqROMANIAN UqUHqSLOAN U
  qOOHrWrUqWArOrIrEIrOWqNASAL UwOwIwAqPERNIN ANyMqSLOAN ENwANwONqVOCALIC M+1bc70.jAFFIX LEFT HORIZON
  TAL SECANTpMID HORIZONTAL SECANTpRIGHT HORIZONTAL SECANTpLOW VERTICAL SECANTpMID VERTICAL SECANTpH
  IGH VERTICAL SECANTpATTACHED SECANTyLEFT-TO-RIGHT SECANTyTANGENTzAILyE HOOKyI HOOKyTANGENT HOOK+1b
  c80.pHIGH ACUTEuTIGHT ACUTEuGRAVEuLONG GRAVEuDOTuCIRCLEuLINEuWAVEuVERTICAL+1bc90.pLOW ACUTEtTIGHT 
  ACUTEtGRAVEtLONG GRAVEtDOTtCIRCLEtLINEtWAVEtVERTICALtARROW+1bc9c.jSIGN O WITH CROSSjTHICK LETTER S
  ELECTORjDOUBLE MARKjPUNCTUATION CHINOOK FULL STOPaSHORTHAND FORMAT LETTER OVERLAPrCONTINUING OVERL
  APrDOWN STEPrUP STEP+1cf00.aZNAMENNY COMBINING MARK GORAZDO NIZKO S KRYZHEM ON LEFTyNIZKO S KRYZHE
  M ON LEFTyTSATA ON LEFTyGORAZDO NIZKO ON LEFTyNIZKO ON LEFTySREDNE ON LEFTyMALO POVYSHE ON LEFTyPO
  VYSHE ON LEFTyVYSOKO ON LEFTyMALO POVYSHE S KHOKHLOM ON LEFTyPOVYSHE S KHOKHLOM ON LEFTyVYSOKO S K
  HOKHLOM ON LEFTyGORAZDO NIZKO S KRYZHEM ON RIGHTyNIZKO S KRYZHEM ON RIGHTyTSATA ON RIGHTyGORAZDO N
  IZKO ON RIGHTyNIZKO ON RIGHTySREDNE ON RIGHTyMALO POVYSHE ON RIGHTyPOVYSHE ON RIGHTyVYSOKO ON RIGH
  TyMALO POVYSHE S KHOKHLOM ON RIGHTyPOVYSHE S KHOKHLOM ON RIGHTyVYSOKO S KHOKHLOM ON RIGHTyTSATA S 
  KRYZHEMyMALO POVYSHE S KRYZHEMySTRANNO MALO POVYSHEyPOVYSHE S KRYZHEMzOVYSHE STRANNOyVYSOKO S KRYZ
  HEMyMALO POVYSHE STRANNOyGORAZDO VYSOKOyZELOyONyRAVNOyTIKHAYAyBORZAYAyUDARKAyPODVERTKAyLOMKAyKUPNA
  YAzACHKAyZEVOKySKOBAyRAZSEKAyKRYZH ON LEFT+1cf30.tTONAL RANGE MARK MRACHNOzRANGE MARK SVETLOzRANGE
   MARK TRESVETLOtMARK ZADERZHKAyDEMESTVENNY ZADERZHKAyOTSECHKAyPODCHASHIEzODCHASHIE WITH VERTICAL S
  TROKEyCHASHKAzHASHKA POLNAYAyOBLACHKOySOROCHYA NOZHKAyTOCHKAyDVOETOCHIEtATTACHING VERTICAL OMETtMA
  RK CURVED OMETyKRYZHtLOWER TONAL RANGE INDICATORjPRIZNAK MODIFIER LEVEL-2z LEVEL-3z DIRECTION FLIP
  z KRYZHz ROG+1cf50.jNEUME KRYUKu TIKHYpPARAKLITpDVA V CHELNUpKLYUCHpZANOZHEKpSTOPITSAx S OCHKOMpPE
  REVODKAy NEPOSTOYANNAYApSTOPITSA WITH SOROCHYA NOZHKApCHELYUSTKApPALKApZAPYATAYApGOLUBCHIK BORZYzT
  IKHYzMRACHNYzSVETLYzTRESVETLYpVRAKHIYA PROSTAYAyMRACHNAYAySVETLAYAyTRESVETLAYAyKLYUCHEVAYA PROSTAY
  AzLYUCHEVAYA MRACHNAYAzLYUCHEVAYA SVETLAYAzLYUCHEVAYA TRESVETLAYApDOUBLE ZAPYATAYApREVERSED CHELYU
  STKApDERBITSApKHAMILOpCHASHKApPODCHASHIEpSKAMEYTSA MRACHNAYAzSVETLAYAzTRESVETLAYAzTIKHAYApDEMESTVE
  NNY KLYUCHpSKAMEYTSA KLYUCHEVAYA SVETLAYAzKLYUCHENEPOSTOYANNAYAzKLYUCHEVAYA TIKHAYAzDVOECHELNAYA P
  ROSTAYAzDVOECHELNAYA SVETLAYAzDVOECHELNAYA NEPOSTOYANNAYAzDVOECHELNAYA KLYUCHEVAYAqLOZHITIEy S ZAP
  YATOYzZAKRYTOEzS KRYZHEMpKRYZHpROGpFITApKOBYLApZMEYTSApSTATYAv S ZAPYATOYyKRYZHEMyZAPYATOY I KRYZH
  EMyKRYZHEM I ZAPYATOYwZAKRYTAYAzRYTAYA S ZAPYATOYwS ROGOMyDVUMYA ZAPYATYMIyZAPYATOY I PODCHASHIEMp
  POLKULIZMYpSTATYA NEPOSTOYANNAYArRELA PROSTAYAwMRACHNOTIKHAYAwKRYZHEVAYAwPOLUPOVODNAYAyVODNAYAwNEP
  OSTOYANNAYAwKLYUCHEPOVODNAYAzUCHENEPOSTOYANNAYAwTIKHAYA PUTNAYAwDVOECHELNAYAzECHELNOKRYZHEVAYAzECH
  ELNOPOVODNAYAzECHELNAYA KLYUCHEVAYAzECHELNOPOVODNAYA KLYUCHEVAYAwGROMNAYA WITH SINGLE ZAPYATAYAzMO
  POVODNAYA WITH SINGLE ZAPYATAYAzMNAYAzMOPOVODNAYAzMOPOVODNAYA WITH DOUBLE ZAPYATAYAzMOKRYZHEVAYAzM
  OKRYZHEVAYA POVODNAYApMECHIKv POVODNYwKLYUCHEVOYzUCHEPOVODNYzUCHENEPOSTOYANNYpSTRELA TRYASOGLASNAY
  AzASOPOVODNAYAzASOSTRELNAYApOSOKAu SVETLAYAvTRESVETLAYAvKRYUKOVAYA SVETLAYAwLYUCHEVAYA SVETLAYAzCH
  EVAYA NEPOSTOYANNAYApSTRELA KRYUKOVAYAzUKOVAYA POVODNAYAzUKOVAYA GROMNAYA WITH SINGLE ZAPYATAYAzUK
  OVAYA GROMOPOVODNAYA WITH SINGLE ZAPYATAYAzUKOVAYA GROMNAYAzUKOVAYA GROMOPOVODNAYAzUKOVAYA GROMOPO
  VODNAYA WITH DOUBLE ZAPYATAYAzUKOVAYA GROMOKRYZHEVAYAzUKOVAYA GROMOKRYZHEVAYA POVODNAYAzUKOVAYA TR
  YASKApKUFISMApOBLAKOpDUDApNEMKApPAUK+1d000.aBYZANTINE MUSICAL SYMBOL PSILIzDASEIAzPERISPOMENIzOXEI
  A EKFONITIKONzOXEIA DIPLIzVAREIA EKFONITIKONzVAREIA DIPLIzKATHISTIzSYRMATIKIzPARAKLITIKIzYPOKRISIS
  zYPOKRISIS DIPLIzKREMASTIzAPESO EKFONITIKONzEXO EKFONITIKONzTELEIAzKENTIMATAzAPOSTROFOSzAPOSTROFOS
   DIPLIzSYNEVMAzTHITAzOLIGON ARCHAIONzGORGON ARCHAIONzPSILONzCHAMILONzVATHYzISON ARCHAIONzKENTIMA A
  RCHAIONzKENTIMATA ARCHAIONzSAXIMATAzPARICHONzSTAVROS APODEXIAzOXEIAI ARCHAIONzVAREIAI ARCHAIONzAPO
  DERMA ARCHAIONzAPOTHEMAzKLASMAzREVMAzPIASMA ARCHAIONzTINAGMAzANATRICHISMAzSEISMAzSYNAGMA ARCHAIONz
  SYNAGMA META STAVROUzOYRANISMA ARCHAIONzTHEMAzLEMOIzDYOzTRIAzTESSERAzKRATIMATAzAPESO EXO NEOzFTHOR
  A ARCHAIONzIMIFTHORAzTROMIKON ARCHAIONzKATAVA TROMIKONzPELASTONzPSIFISTONzKONTEVMAzCHOREVMA ARCHAI
  ONzRAPISMAzPARAKALESMA ARCHAIONzPARAKLITIKI ARCHAIONzICHADINzNANAzPETASMAzKONTEVMA ALLOzTROMIKON A
  LLOzSTRAGGISMATAzGRONTHISMATAzISON NEOzOLIGON NEOzOXEIA NEOzPETASTIzKOUFISMAzPETASTOKOUFISMAzKRATI
  MOKOUFISMAzPELASTON NEOzKENTIMATA NEO ANOzKENTIMA NEO ANOzYPSILIzAPOSTROFOS NEOzAPOSTROFOI SYNDESM
  OS NEOzYPORROIzKRATIMOYPORROONzELAFRONzCHAMILIzMIKRON ISONzVAREIA NEOzPIASMA NEOzPSIFISTON NEOzOMA
  LONzANTIKENOMAzLYGISMAzPARAKLITIKI NEOzPARAKALESMA NEOzETERON PARAKALESMAzKYLISMAzANTIKENOKYLISMAz
  TROMIKON NEOzEKSTREPTONzSYNAGMA NEOzSYRMAzCHOREVMA NEOzEPEGERMAzSEISMA NEOzXIRON KLASMAzTROMIKOPSI
  FISTONzPSIFISTOLYGISMAzTROMIKOLYGISMAzTROMIKOPARAKALESMAzPSIFISTOPARAKALESMAzTROMIKOSYNAGMAzPSIFIS
  TOSYNAGMAzGORGOSYNTHETONzARGOSYNTHETONzETERON ARGOSYNTHETONzOYRANISMA NEOzTHEMATISMOS ESOzTHEMATIS
  MOS EXOzTHEMA APLOUNzTHES KAI APOTHESzKATAVASMAzENDOFONONzYFEN KATOzYFEN ANOzSTAVROSzKLASMA ANOzDI
  PLI ARCHAIONzKRATIMA ARCHAIONzKRATIMA ALLOzKRATIMA NEOzAPODERMA NEOzAPLIzDIPLIzTRIPLIzTETRAPLIzKOR
  ONISzLEIMMA ENOS CHRONOUzLEIMMA DYO CHRONONzLEIMMA TRION CHRONONzLEIMMA TESSARON CHRONONzLEIMMA IM
  ISEOS CHRONOUzGORGON NEO ANOzGORGON PARESTIGMENON ARISTERAzGORGON PARESTIGMENON DEXIAzDIGORGONzDIG
  ORGON PARESTIGMENON ARISTERA KATOzDIGORGON PARESTIGMENON ARISTERA ANOzDIGORGON PARESTIGMENON DEXIA
  zTRIGORGONzARGONzIMIDIARGONzDIARGONzAGOGI POLI ARGIzAGOGI ARGOTERIzAGOGI ARGIzAGOGI METRIAzAGOGI M
  ESIzAGOGI GORGIzAGOGI GORGOTERIzAGOGI POLI GORGIzMARTYRIA PROTOS ICHOSzMARTYRIA ALLI PROTOS ICHOSz
  MARTYRIA DEYTEROS ICHOSzMARTYRIA ALLI DEYTEROS ICHOSzMARTYRIA TRITOS ICHOSzMARTYRIA TRIFONIASzMART
  YRIA TETARTOS ICHOSzMARTYRIA TETARTOS LEGETOS ICHOSzMARTYRIA LEGETOS ICHOSzMARTYRIA PLAGIOS ICHOSz
  ISAKIA TELOUS ICHIMATOSzAPOSTROFOI TELOUS ICHIMATOSzFANEROSIS TETRAFONIASzFANEROSIS MONOFONIASzFAN
  EROSIS DIFONIASzMARTYRIA VARYS ICHOSzMARTYRIA PROTOVARYS ICHOSzMARTYRIA PLAGIOS TETARTOS ICHOSzGOR
  THMIKON N APLOUNzGORTHMIKON N DIPLOUNzENARXIS KAI FTHORA VOUzIMIFONONzIMIFTHORONzFTHORA ARCHAION D
  EYTEROU ICHOUzFTHORA DIATONIKI PAzFTHORA DIATONIKI NANAzFTHORA NAOS ICHOSzFTHORA DIATONIKI DIzFTHO
  RA SKLIRON DIATONON DIzFTHORA DIATONIKI KEzFTHORA DIATONIKI ZOzFTHORA DIATONIKI NI KATOzFTHORA DIA
  TONIKI NI ANOzFTHORA MALAKON CHROMA DIFONIASzFTHORA MALAKON CHROMA MONOFONIASzFHTORA SKLIRON CHROM
  A VASISzFTHORA SKLIRON CHROMA SYNAFIzFTHORA NENANOzCHROA ZYGOSzCHROA KLITONzCHROA SPATHIzFTHORA I 
  YFESIS TETARTIMORIONzFTHORA ENARMONIOS ANTIFONIAzYFESIS TRITIMORIONzDIESIS TRITIMORIONzDIESIS TETA
  RTIMORIONzDIESIS APLI DYO DODEKATAzDIESIS MONOGRAMMOS TESSERA DODEKATAzDIESIS DIGRAMMOS EX DODEKAT
  AzDIESIS TRIGRAMMOS OKTO DODEKATAzYFESIS APLI DYO DODEKATAzYFESIS MONOGRAMMOS TESSERA DODEKATAzYFE
  SIS DIGRAMMOS EX DODEKATAzYFESIS TRIGRAMMOS OKTO DODEKATAzGENIKI DIESISzGENIKI YFESISzDIASTOLI APL
  I MIKRIzDIASTOLI APLI MEGALIzDIASTOLI DIPLIzDIASTOLI THESEOSzSIMANSIS THESEOSzSIMANSIS THESEOS DIS
  IMOUzSIMANSIS THESEOS TRISIMOUzSIMANSIS THESEOS TETRASIMOUzSIMANSIS ARSEOSzSIMANSIS ARSEOS DISIMOU
  zSIMANSIS ARSEOS TRISIMOUzSIMANSIS ARSEOS TETRASIMOUzDIGRAMMA GGzDIFTOGGOS OUzSTIGMAzARKTIKO PAzAR
  KTIKO VOUzARKTIKO GAzARKTIKO DIzARKTIKO KEzARKTIKO ZOzARKTIKO NIzKENTIMATA NEO MESOzKENTIMA NEO ME
  SOzKENTIMATA NEO KATOzKENTIMA NEO KATOzKLASMA KATOzGORGON NEO KATO+1d100.aMUSICAL SYMBOL SINGLE BA
  RLINEpDOUBLE BARLINEpFINAL BARLINEpREVERSE FINAL BARLINEpDASHED BARLINEpSHORT BARLINEpLEFT REPEAT 
  SIGNpRIGHT REPEAT SIGNqEPEAT DOTSpDAL SEGNOr CAPOpSEGNOpCODApREPEATED FIGURE-1zIGURE-2zIGURE-3pFER
  MATAw BELOWpBREATH MARKpCAESURApBRACEtKETpONE-LINE STAFFpTWO-LINE STAFFqHREE-LINE STAFFpFOUR-LINE 
  STAFFqIVE-LINE STAFFpSIX-LINE STAFFtSTRING FRETBOARDpFOUR-STRING FRETBOARDpG CLEFv OTTAVA ALTAzAVA
   BASSApC CLEFpF CLEFv OTTAVA ALTAzAVA BASSApDRUM CLEF-1z2+1d129.pMULTIPLE MEASURE RESTpDOUBLE SHAR
  PwFLATpFLAT UPuDOWNpNATURAL UPxDOWNpSHARP UPvDOWNpQUARTER TONE SHARPzNE FLATpCOMMON TIMEqUT TIMEpO
  TTAVA ALTAwBASSApQUINDICESIMA ALTAzMA BASSApMULTI RESTpWHOLE RESTpHALF RESTpQUARTER RESTpEIGHTH RE
  STpSIXTEENTH RESTpTHIRTY-SECOND RESTpSIXTY-FOURTH RESTpONE HUNDRED TWENTY-EIGHTH RESTpX NOTEHEADpP
  LUS NOTEHEADpCIRCLE X NOTEHEADpSQUARE NOTEHEAD WHITEzEHEAD BLACKpTRIANGLE NOTEHEAD UP WHITEzOTEHEA
  D UP BLACKzOTEHEAD LEFT WHITEzOTEHEAD LEFT BLACKzOTEHEAD RIGHT WHITEzOTEHEAD RIGHT BLACKzOTEHEAD D
  OWN WHITEzOTEHEAD DOWN BLACKzOTEHEAD UP RIGHT WHITEzOTEHEAD UP RIGHT BLACKpMOON NOTEHEAD WHITEzEAD
   BLACKpTRIANGLE-ROUND NOTEHEAD DOWN WHITEzOUND NOTEHEAD DOWN BLACKpPARENTHESIS NOTEHEADpVOID NOTEH
  EADpNOTEHEAD BLACKqULL NOTEHEADpCLUSTER NOTEHEAD WHITEzTEHEAD BLACKpBREVEpWHOLE NOTEpHALF NOTEpQUA
  RTER NOTEpEIGHTH NOTEpSIXTEENTH NOTEpTHIRTY-SECOND NOTEpSIXTY-FOURTH NOTEpONE HUNDRED TWENTY-EIGHT
  H NOTEpCOMBINING STEMzSPRECHGESANG STEMzTREMOLO-1zTREMOLO-2zTREMOLO-3pFINGERED TREMOLO-1zREMOLO-2z
  REMOLO-3pCOMBINING AUGMENTATION DOTzFLAG-1zFLAG-2zFLAG-3zFLAG-4zFLAG-5pBEGIN BEAMpEND BEAMpBEGIN T
  IEpEND TIEpBEGIN SLURpEND SLURpBEGIN PHRASEpEND PHRASEpCOMBINING ACCENTzSTACCATOzTENUTOzSTACCATISS
  IMOzMARCATOzMARCATO-STACCATOzACCENT-STACCATOzLOUREpARPEGGIATO UPz DOWNpCOMBINING DOITzRIPzFLIPzSME
  ARzBENDzDOUBLE TONGUEzTRIPLE TONGUEpRINFORZANDOpSUBITOpZpPIANOpMEZZOpFORTEpCRESCENDOpDECRESCENDOpG
  RACE NOTE SLASHz NO SLASHpTRqURNpINVERTED TURNpTURN SLASHuUPpORNAMENT STROKE-1zTROKE-2zTROKE-3zTRO
  KE-4zTROKE-5zTROKE-6zTROKE-7zTROKE-8zTROKE-9zTROKE-10zTROKE-11pHAUPTSTIMMEpNEBENSTIMMEpEND OF STIM
  MEpDEGREE SLASHpCOMBINING DOWN BOWzUP BOWzHARMONICzSNAP PIZZICATOpPEDAL MARKvUP MARKpHALF PEDAL MA
  RKpGLISSANDO UPzDOWNpWITH FINGERNAILSpDAMPt ALLpMAXIMApLONGApBREVISpSEMIBREVIS WHITEz BLACKpMINIMA
  v BLACKpSEMIMINIMA WHITEz BLACKpFUSA WHITEuBLACKpLONGA PERFECTA RESTvIMPERFECTA RESTpBREVIS RESTpS
  EMIBREVIS RESTpMINIMA RESTpSEMIMINIMA RESTpTEMPUS PERFECTUM CUM PROLATIONE PERFECTAzFECTUM CUM PRO
  LATIONE IMPERFECTAzFECTUM CUM PROLATIONE PERFECTA DIMINUTION-1wIMPERFECTUM CUM PROLATIONE PERFECTA
  zERFECTUM CUM PROLATIONE IMPERFECTAzERFECTUM CUM PROLATIONE IMPERFECTA DIMINUTION-1zERFECTUM CUM P
  ROLATIONE IMPERFECTA DIMINUTION-2zERFECTUM CUM PROLATIONE IMPERFECTA DIMINUTION-3pCROIXpGREGORIAN 
  C CLEFzF CLEFpSQUARE BpVIRGApPODATUSpCLIVISpSCANDICUSpCLIMACUSpTORCULUSpPORRECTUSy FLEXUSpSCANDICU
  S FLEXUSpTORCULUS RESUPINUSpPES SUBPUNCTISpKIEVAN C CLEFwEND OF PIECEwFINAL NOTEwRECITATIVE MARKwW
  HOLE NOTEwHALF NOTEwQUARTER NOTE STEM DOWNzRTER NOTE STEM UPwEIGHTH NOTE STEM DOWNzHTH NOTE STEM U
  PwFLAT SIGNpSORIpKORON+1d200.aGREEK VOCAL NOTATION SYMBOL-1zOL-2zOL-3zOL-4zOL-5zOL-6zOL-7zOL-8zOL-
  9zOL-10zOL-11zOL-12zOL-13zOL-14zOL-15zOL-16zOL-17zOL-18zOL-19zOL-20zOL-21zOL-22zOL-23zOL-24zOL-50z
  OL-51zOL-52zOL-53zOL-54gINSTRUMENTAL NOTATION SYMBOL-1zON SYMBOL-2zON SYMBOL-4zON SYMBOL-5zON SYMB
  OL-7zON SYMBOL-8zON SYMBOL-11zON SYMBOL-12zON SYMBOL-13zON SYMBOL-14zON SYMBOL-17zON SYMBOL-18zON 
  SYMBOL-19zON SYMBOL-23zON SYMBOL-24zON SYMBOL-25zON SYMBOL-26zON SYMBOL-27zON SYMBOL-29zON SYMBOL-
  30zON SYMBOL-32zON SYMBOL-36zON SYMBOL-37zON SYMBOL-38zON SYMBOL-39zON SYMBOL-40zON SYMBOL-42zON S
  YMBOL-43zON SYMBOL-45zON SYMBOL-47zON SYMBOL-48zON SYMBOL-49zON SYMBOL-50zON SYMBOL-51zON SYMBOL-5
  2zON SYMBOL-53zON SYMBOL-54aCOMBINING GREEK MUSICAL TRISEMEzETRASEMEyPENTASEMEaGREEK MUSICAL LEIMM
  A+1d2e0.aMAYAN NUMERAL ZEROoONEoTWOpHREEoFOURpIVEoSIXpEVENoEIGHToNINEoTENoELEVENoTWELVEpHIRTEENoFO
  URTEENpIFTEENoSIXTEENpEVENTEENoEIGHTEENoNINETEEN+1d300.bONOGRAM FOR EARTHaDIGRAM FOR HEAVENLY EART
  HmUMAN EARTHlEARTHLY HEAVENuUMANqaTETRAGRAM FOR CENTREoFULL CIRCLEoMIREDoBARRIERoKEEPING SMALLoCON
  TRARIETYoASCENToOPPOSITIONoBRANCHING OUToDEFECTIVENESS OR DISTORTIONpIVERGENCEoYOUTHFULNESSoINCREA
  SEoPENETRATIONoREACHoCONTACToHOLDING BACKoWAITINGoFOLLOWINGoADVANCEoRELEASEqSISTANCEoEASEoJOYoCONT
  ENTIONoENDEAVOURoDUTIESoCHANGEoDECISIVENESSoBOLD RESOLUTIONoPACKINGoLEGIONoCLOSENESSoKINSHIPoGATHE
  RINGoSTRENGTHoPURITYoFULLNESSoRESIDENCEoLAW OR MODELoRESPONSEoGOING TO MEEToENCOUNTERSoSTOVEoGREAT
  NESSoENLARGEMENToPATTERNoRITUALoFLIGHToVASTNESS OR WASTINGoCONSTANCYoMEASUREoETERNITYoUNITYoDIMINI
  SHMENToCLOSED MOUTHoGUARDEDNESSpATHERING INoMASSINGoACCUMULATIONoEMBELLISHMENToDOUBToWATCHoSINKING
  oINNERoDEPARTUREpARKENINGpIMMINGoEXHAUSTIONoSEVERANCEpTOPPAGEoHARDNESSoCOMPLETIONpLOSUREoFAILUREoA
  GGRAVATIONoCOMPLIANCEoON THE VERGEoDIFFICULTIESoLABOURINGoFOSTERING+1d360.aCOUNTING ROD UNIT DIGIT
   ONEyTWOzHREEyFOURzIVEySIXzEVENyEIGHTyNINEnTENS DIGIT ONEyTWOzHREEyFOURzIVEySIXzEVENyEIGHTyNINEaID
  EOGRAPHIC TALLY MARK ONExTWOyHREExFOURyIVEaTALLY MARK ONElFIVE+1d400.aMATHEMATICAL BOLD CAPITAL Az
   Bz Cz Dz Ez Fz Gz Hz Iz Jz Kz Lz Mz Nz Oz Pz Qz Rz Sz Tz Uz Vz Wz Xz Yz ZsSMALL AyByCyDyEyFyGyHyI
  yJyKyLyMyNyOyPyQyRySyTyUyVyWyXyYyZnITALIC CAPITAL AzAL BzAL CzAL DzAL EzAL FzAL GzAL HzAL IzAL JzA
  L KzAL LzAL MzAL NzAL OzAL PzAL QzAL RzAL SzAL TzAL UzAL VzAL WzAL XzAL YzAL ZuSMALL Az Bz Cz Dz E
  z Fz G+1d456.z Iz Jz Kz Lz Mz Nz Oz Pz Qz Rz Sz Tz Uz Vz Wz Xz Yz ZnBOLD ITALIC CAPITAL AzCAPITAL 
  BzCAPITAL CzCAPITAL DzCAPITAL EzCAPITAL FzCAPITAL GzCAPITAL HzCAPITAL IzCAPITAL JzCAPITAL KzCAPITA
  L LzCAPITAL MzCAPITAL NzCAPITAL OzCAPITAL PzCAPITAL QzCAPITAL RzCAPITAL SzCAPITAL TzCAPITAL UzCAPI
  TAL VzCAPITAL WzCAPITAL XzCAPITAL YzCAPITAL ZzSMALL AzSMALL BzSMALL CzSMALL DzSMALL EzSMALL FzSMAL
  L GzSMALL HzSMALL IzSMALL JzSMALL KzSMALL LzSMALL MzSMALL NzSMALL OzSMALL PzSMALL QzSMALL RzSMALL 
  SzSMALL TzSMALL UzSMALL VzSMALL WzSMALL XzSMALL YzSMALL ZnSCRIPT CAPITAL A+1d49e.zAL CzAL D+1d4a2.
  zAL G+1d4a5.zAL JzAL K+1d4a9.zAL NzAL OzAL PzAL Q+1d4ae.zAL SzAL TzAL UzAL VzAL WzAL XzAL YzAL ZuS
  MALL Az Bz Cz D+1d4bb.z F+1d4bd.z Hz Iz Jz Kz Lz Mz N+1d4c5.z Pz Qz Rz Sz Tz Uz Vz Wz Xz Yz ZnBOLD
   SCRIPT CAPITAL AzCAPITAL BzCAPITAL CzCAPITAL DzCAPITAL EzCAPITAL FzCAPITAL GzCAPITAL HzCAPITAL Iz
  CAPITAL JzCAPITAL KzCAPITAL LzCAPITAL MzCAPITAL NzCAPITAL OzCAPITAL PzCAPITAL QzCAPITAL RzCAPITAL 
  SzCAPITAL TzCAPITAL UzCAPITAL VzCAPITAL WzCAPITAL XzCAPITAL YzCAPITAL ZzSMALL AzSMALL BzSMALL CzSM
  ALL DzSMALL EzSMALL FzSMALL GzSMALL HzSMALL IzSMALL JzSMALL KzSMALL LzSMALL MzSMALL NzSMALL OzSMAL
  L PzSMALL QzSMALL RzSMALL SzSMALL TzSMALL UzSMALL VzSMALL WzSMALL XzSMALL YzSMALL ZnFRAKTUR CAPITA
  L AzTAL B+1d507.zTAL DzTAL EzTAL FzTAL G+1d50d.zTAL JzTAL KzTAL LzTAL MzTAL NzTAL OzTAL PzTAL Q+1d
  516.zTAL SzTAL TzTAL UzTAL VzTAL WzTAL XzTAL Y+1d51e.vSMALL AzL BzL CzL DzL EzL FzL GzL HzL IzL Jz
  L KzL LzL MzL NzL OzL PzL QzL RzL SzL TzL UzL VzL WzL XzL YzL ZnDOUBLE-STRUCK CAPITAL AzK CAPITAL 
  B+1d53b.zK CAPITAL DzK CAPITAL EzK CAPITAL FzK CAPITAL G+1d540.zK CAPITAL IzK CAPITAL JzK CAPITAL 
  KzK CAPITAL LzK CAPITAL M+1d546.zK CAPITAL O+1d54a.zK CAPITAL SzK CAPITAL TzK CAPITAL UzK CAPITAL 
  VzK CAPITAL WzK CAPITAL XzK CAPITAL Y+1d552.zK SMALL AzK SMALL BzK SMALL CzK SMALL DzK SMALL EzK S
  MALL FzK SMALL GzK SMALL HzK SMALL IzK SMALL JzK SMALL KzK SMALL LzK SMALL MzK SMALL NzK SMALL OzK
   SMALL PzK SMALL QzK SMALL RzK SMALL SzK SMALL TzK SMALL UzK SMALL VzK SMALL WzK SMALL XzK SMALL Y
  zK SMALL ZnBOLD FRAKTUR CAPITAL Az CAPITAL Bz CAPITAL Cz CAPITAL Dz CAPITAL Ez CAPITAL Fz CAPITAL 
  Gz CAPITAL Hz CAPITAL Iz CAPITAL Jz CAPITAL Kz CAPITAL Lz CAPITAL Mz CAPITAL Nz CAPITAL Oz CAPITAL
   Pz CAPITAL Qz CAPITAL Rz CAPITAL Sz CAPITAL Tz CAPITAL Uz CAPITAL Vz CAPITAL Wz CAPITAL Xz CAPITA
  L Yz CAPITAL Zz SMALL Az SMALL Bz SMALL Cz SMALL Dz SMALL Ez SMALL Fz SMALL Gz SMALL Hz SMALL Iz S
  MALL Jz SMALL Kz SMALL Lz SMALL Mz SMALL Nz SMALL Oz SMALL Pz SMALL Qz SMALL Rz SMALL Sz SMALL Tz 
  SMALL Uz SMALL Vz SMALL Wz SMALL Xz SMALL Yz SMALL ZnSANS-SERIF CAPITAL AzAPITAL BzAPITAL CzAPITAL
   DzAPITAL EzAPITAL FzAPITAL GzAPITAL HzAPITAL IzAPITAL JzAPITAL KzAPITAL LzAPITAL MzAPITAL NzAPITA
  L OzAPITAL PzAPITAL QzAPITAL RzAPITAL SzAPITAL TzAPITAL UzAPITAL VzAPITAL WzAPITAL XzAPITAL YzAPIT
  AL ZySMALL AzMALL BzMALL CzMALL DzMALL EzMALL FzMALL GzMALL HzMALL IzMALL JzMALL KzMALL LzMALL MzM
  ALL NzMALL OzMALL PzMALL QzMALL RzMALL SzMALL TzMALL UzMALL VzMALL WzMALL XzMALL YzMALL ZyBOLD CAP
  ITAL AzOLD CAPITAL BzOLD CAPITAL CzOLD CAPITAL DzOLD CAPITAL EzOLD CAPITAL FzOLD CAPITAL GzOLD CAP
  ITAL HzOLD CAPITAL IzOLD CAPITAL JzOLD CAPITAL KzOLD CAPITAL LzOLD CAPITAL MzOLD CAPITAL NzOLD CAP
  ITAL OzOLD CAPITAL PzOLD CAPITAL QzOLD CAPITAL RzOLD CAPITAL SzOLD CAPITAL TzOLD CAPITAL UzOLD CAP
  ITAL VzOLD CAPITAL WzOLD CAPITAL XzOLD CAPITAL YzOLD CAPITAL ZzOLD SMALL AzOLD SMALL BzOLD SMALL C
  zOLD SMALL DzOLD SMALL EzOLD SMALL FzOLD SMALL GzOLD SMALL HzOLD SMALL IzOLD SMALL JzOLD SMALL KzO
  LD SMALL LzOLD SMALL MzOLD SMALL NzOLD SMALL OzOLD SMALL PzOLD SMALL QzOLD SMALL RzOLD SMALL SzOLD
   SMALL TzOLD SMALL UzOLD SMALL VzOLD SMALL WzOLD SMALL XzOLD SMALL YzOLD SMALL ZyITALIC CAPITAL Az
  TALIC CAPITAL BzTALIC CAPITAL CzTALIC CAPITAL DzTALIC CAPITAL EzTALIC CAPITAL FzTALIC CAPITAL GzTA
  LIC CAPITAL HzTALIC CAPITAL IzTALIC CAPITAL JzTALIC CAPITAL KzTALIC CAPITAL LzTALIC CAPITAL MzTALI
  C CAPITAL NzTALIC CAPITAL OzTALIC CAPITAL PzTALIC CAPITAL QzTALIC CAPITAL RzTALIC CAPITAL SzTALIC 
  CAPITAL TzTALIC CAPITAL UzTALIC CAPITAL VzTALIC CAPITAL WzTALIC CAPITAL XzTALIC CAPITAL YzTALIC CA
  PITAL ZzTALIC SMALL AzTALIC SMALL BzTALIC SMALL CzTALIC SMALL DzTALIC SMALL EzTALIC SMALL FzTALIC 
  SMALL GzTALIC SMALL HzTALIC SMALL IzTALIC SMALL JzTALIC SMALL KzTALIC SMALL LzTALIC SMALL MzTALIC 
  SMALL NzTALIC SMALL OzTALIC SMALL PzTALIC SMALL QzTALIC SMALL RzTALIC SMALL SzTALIC SMALL TzTALIC 
  SMALL UzTALIC SMALL VzTALIC SMALL WzTALIC SMALL XzTALIC SMALL YzTALIC SMALL ZyBOLD ITALIC CAPITAL 
  AzOLD ITALIC CAPITAL BzOLD ITALIC CAPITAL CzOLD ITALIC CAPITAL DzOLD ITALIC CAPITAL EzOLD ITALIC C
  APITAL FzOLD ITALIC CAPITAL GzOLD ITALIC CAPITAL HzOLD ITALIC CAPITAL IzOLD ITALIC CAPITAL JzOLD I
  TALIC CAPITAL KzOLD ITALIC CAPITAL LzOLD ITALIC CAPITAL MzOLD ITALIC CAPITAL NzOLD ITALIC CAPITAL 
  OzOLD ITALIC CAPITAL PzOLD ITALIC CAPITAL QzOLD ITALIC CAPITAL RzOLD ITALIC CAPITAL SzOLD ITALIC C
  APITAL TzOLD ITALIC CAPITAL UzOLD ITALIC CAPITAL VzOLD ITALIC CAPITAL WzOLD ITALIC CAPITAL XzOLD I
  TALIC CAPITAL YzOLD ITALIC CAPITAL ZzOLD ITALIC SMALL AzOLD ITALIC SMALL BzOLD ITALIC SMALL CzOLD 
  ITALIC SMALL DzOLD ITALIC SMALL EzOLD ITALIC SMALL FzOLD ITALIC SMALL GzOLD ITALIC SMALL HzOLD ITA
  LIC SMALL IzOLD ITALIC SMALL JzOLD ITALIC SMALL KzOLD ITALIC SMALL LzOLD ITALIC SMALL MzOLD ITALIC
   SMALL NzOLD ITALIC SMALL OzOLD ITALIC SMALL PzOLD ITALIC SMALL QzOLD ITALIC SMALL RzOLD ITALIC SM
  ALL SzOLD ITALIC SMALL TzOLD ITALIC SMALL UzOLD ITALIC SMALL VzOLD ITALIC SMALL WzOLD ITALIC SMALL
   XzOLD ITALIC SMALL YzOLD ITALIC SMALL ZnMONOSPACE CAPITAL AzPITAL BzPITAL CzPITAL DzPITAL EzPITAL
   FzPITAL GzPITAL HzPITAL IzPITAL JzPITAL KzPITAL LzPITAL MzPITAL NzPITAL OzPITAL PzPITAL QzPITAL R
  zPITAL SzPITAL TzPITAL UzPITAL VzPITAL WzPITAL XzPITAL YzPITAL ZxSMALL AzALL BzALL CzALL DzALL EzA
  LL FzALL GzALL HzALL IzALL JzALL KzALL LzALL MzALL NzALL OzALL PzALL QzALL RzALL SzALL TzALL UzALL
   VzALL WzALL XzALL YzALL ZnITALIC SMALL DOTLESS Iz DOTLESS J+1d6a8.nBOLD CAPITAL ALPHAz BETAz GAMM
  Az DELTAz EPSILONz ZETAz ETAz THETAz IOTAz KAPPAz LAMDAz MUz NUz XIz OMICRONz PIz RHOz THETA SYMBO
  Lz SIGMAz TAUz UPSILONz PHIz CHIz PSIz OMEGAsNABLAsSMALL ALPHAyBETAyGAMMAyDELTAyEPSILONyZETAyETAyT
  HETAyIOTAyKAPPAyLAMDAyMUyNUyXIyOMICRONyPIyRHOyFINAL SIGMAySIGMAyTAUyUPSILONyPHIyCHIyPSIyOMEGAsPART
  IAL DIFFERENTIALsEPSILON SYMBOLsTHETA SYMBOLsKAPPA SYMBOLsPHI SYMBOLsRHO SYMBOLsPI SYMBOLnITALIC C
  APITAL ALPHAzAL BETAzAL GAMMAzAL DELTAzAL EPSILONzAL ZETAzAL ETAzAL THETAzAL IOTAzAL KAPPAzAL LAMD
  AzAL MUzAL NUzAL XIzAL OMICRONzAL PIzAL RHOzAL THETA SYMBOLzAL SIGMAzAL TAUzAL UPSILONzAL PHIzAL C
  HIzAL PSIzAL OMEGAuNABLAuSMALL ALPHAz BETAz GAMMAz DELTAz EPSILONz ZETAz ETAz THETAz IOTAz KAPPAz 
  LAMDAz MUz NUz XIz OMICRONz PIz RHOz FINAL SIGMAz SIGMAz TAUz UPSILONz PHIz CHIz PSIz OMEGAuPARTIA
  L DIFFERENTIALuEPSILON SYMBOLuTHETA SYMBOLuKAPPA SYMBOLuPHI SYMBOLuRHO SYMBOLuPI SYMBOLnBOLD ITALI
  C CAPITAL ALPHAzCAPITAL BETAzCAPITAL GAMMAzCAPITAL DELTAzCAPITAL EPSILONzCAPITAL ZETAzCAPITAL ETAz
  CAPITAL THETAzCAPITAL IOTAzCAPITAL KAPPAzCAPITAL LAMDAzCAPITAL MUzCAPITAL NUzCAPITAL XIzCAPITAL OM
  ICRONzCAPITAL PIzCAPITAL RHOzCAPITAL THETA SYMBOLzCAPITAL SIGMAzCAPITAL TAUzCAPITAL UPSILONzCAPITA
  L PHIzCAPITAL CHIzCAPITAL PSIzCAPITAL OMEGAzNABLAzSMALL ALPHAzSMALL BETAzSMALL GAMMAzSMALL DELTAzS
  MALL EPSILONzSMALL ZETAzSMALL ETAzSMALL THETAzSMALL IOTAzSMALL KAPPAzSMALL LAMDAzSMALL MUzSMALL NU
  zSMALL XIzSMALL OMICRONzSMALL PIzSMALL RHOzSMALL FINAL SIGMAzSMALL SIGMAzSMALL TAUzSMALL UPSILONzS
  MALL PHIzSMALL CHIzSMALL PSIzSMALL OMEGAzPARTIAL DIFFERENTIALzEPSILON SYMBOLzTHETA SYMBOLzKAPPA SY
  MBOLzPHI SYMBOLzRHO SYMBOLzPI SYMBOLnSANS-SERIF BOLD CAPITAL ALPHAzOLD CAPITAL BETAzOLD CAPITAL GA
  MMAzOLD CAPITAL DELTAzOLD CAPITAL EPSILONzOLD CAPITAL ZETAzOLD CAPITAL ETAzOLD CAPITAL THETAzOLD C
  APITAL IOTAzOLD CAPITAL KAPPAzOLD CAPITAL LAMDAzOLD CAPITAL MUzOLD CAPITAL NUzOLD CAPITAL XIzOLD C
  APITAL OMICRONzOLD CAPITAL PIzOLD CAPITAL RHOzOLD CAPITAL THETA SYMBOLzOLD CAPITAL SIGMAzOLD CAPIT
  AL TAUzOLD CAPITAL UPSILONzOLD CAPITAL PHIzOLD CAPITAL CHIzOLD CAPITAL PSIzOLD CAPITAL OMEGAzOLD N
  ABLAzOLD SMALL ALPHAzOLD SMALL BETAzOLD SMALL GAMMAzOLD SMALL DELTAzOLD SMALL EPSILONzOLD SMALL ZE
  TAzOLD SMALL ETAzOLD SMALL THETAzOLD SMALL IOTAzOLD SMALL KAPPAzOLD SMALL LAMDAzOLD SMALL MUzOLD S
  MALL NUzOLD SMALL XIzOLD SMALL OMICRONzOLD SMALL PIzOLD SMALL RHOzOLD SMALL FINAL SIGMAzOLD SMALL 
  SIGMAzOLD SMALL TAUzOLD SMALL UPSILONzOLD SMALL PHIzOLD SMALL CHIzOLD SMALL PSIzOLD SMALL OMEGAzOL
  D PARTIAL DIFFERENTIALzOLD EPSILON SYMBOLzOLD THETA SYMBOLzOLD KAPPA SYMBOLzOLD PHI SYMBOLzOLD RHO
   SYMBOLzOLD PI SYMBOLzOLD ITALIC CAPITAL ALPHAzOLD ITALIC CAPITAL BETAzOLD ITALIC CAPITAL GAMMAzOL
  D ITALIC CAPITAL DELTAzOLD ITALIC CAPITAL EPSILONzOLD ITALIC CAPITAL ZETAzOLD ITALIC CAPITAL ETAzO
  LD ITALIC CAPITAL THETAzOLD ITALIC CAPITAL IOTAzOLD ITALIC CAPITAL KAPPAzOLD ITALIC CAPITAL LAMDAz
  OLD ITALIC CAPITAL MUzOLD ITALIC CAPITAL NUzOLD ITALIC CAPITAL XIzOLD ITALIC CAPITAL OMICRONzOLD I
  TALIC CAPITAL PIzOLD ITALIC CAPITAL RHOzOLD ITALIC CAPITAL THETA SYMBOLzOLD ITALIC CAPITAL SIGMAzO
  LD ITALIC CAPITAL TAUzOLD ITALIC CAPITAL UPSILONzOLD ITALIC CAPITAL PHIzOLD ITALIC CAPITAL CHIzOLD
   ITALIC CAPITAL PSIzOLD ITALIC CAPITAL OMEGAzOLD ITALIC NABLAzOLD ITALIC SMALL ALPHAzOLD ITALIC SM
  ALL BETAzOLD ITALIC SMALL GAMMAzOLD ITALIC SMALL DELTAzOLD ITALIC SMALL EPSILONzOLD ITALIC SMALL Z
  ETAzOLD ITALIC SMALL ETAzOLD ITALIC SMALL THETAzOLD ITALIC SMALL IOTAzOLD ITALIC SMALL KAPPAzOLD I
  TALIC SMALL LAMDAzOLD ITALIC SMALL MUzOLD ITALIC SMALL NUzOLD ITALIC SMALL XIzOLD ITALIC SMALL OMI
  CRONzOLD ITALIC SMALL PIzOLD ITALIC SMALL RHOzOLD ITALIC SMALL FINAL SIGMAzOLD ITALIC SMALL SIGMAz
  OLD ITALIC SMALL TAUzOLD ITALIC SMALL UPSILONzOLD ITALIC SMALL PHIzOLD ITALIC SMALL CHIzOLD ITALIC
   SMALL PSIzOLD ITALIC SMALL OMEGAzOLD ITALIC PARTIAL DIFFERENTIALzOLD ITALIC EPSILON SYMBOLzOLD IT
  ALIC THETA SYMBOLzOLD ITALIC KAPPA SYMBOLzOLD ITALIC PHI SYMBOLzOLD ITALIC RHO SYMBOLzOLD ITALIC P
  I SYMBOLnBOLD CAPITAL DIGAMMAsSMALL DIGAMMA+1d7ce.sDIGIT ZEROyONEyTWOzHREEyFOURzIVEySIXzEVENyEIGHT
  yNINEnDOUBLE-STRUCK DIGIT ZEROzK DIGIT ONEzK DIGIT TWOzK DIGIT THREEzK DIGIT FOURzK DIGIT FIVEzK D
  IGIT SIXzK DIGIT SEVENzK DIGIT EIGHTzK DIGIT NINEnSANS-SERIF DIGIT ZEROzIGIT ONEzIGIT TWOzIGIT THR
  EEzIGIT FOURzIGIT FIVEzIGIT SIXzIGIT SEVENzIGIT EIGHTzIGIT NINEyBOLD DIGIT ZEROzOLD DIGIT ONEzOLD 
  DIGIT TWOzOLD DIGIT THREEzOLD DIGIT FOURzOLD DIGIT FIVEzOLD DIGIT SIXzOLD DIGIT SEVENzOLD DIGIT EI
  GHTzOLD DIGIT NINEnMONOSPACE DIGIT ZEROzGIT ONEzGIT TWOzGIT THREEzGIT FOURzGIT FIVEzGIT SIXzGIT SE
  VENzGIT EIGHTzGIT NINEaSIGNWRITING HAND-FIST INDEXrCIRCLE INDEXsUP INDEXrOVAL INDEXrHINGE INDEXrAN
  GLE INDEXrFIST INDEX BENTrCIRCLE INDEX BENTrFIST THUMB UNDER INDEX BENTwINDEX RAISED KNUCKLEzEX CU
  PPEDzEX HINGEDzEX HINGED LOWrCIRCLE INDEX HINGErFIST INDEX MIDDLErCIRCLE INDEX MIDDLErFIST INDEX M
  IDDLE BENTzEX MIDDLE RAISED KNUCKLESzEX MIDDLE HINGEDzEX UP MIDDLE HINGEDzEX HINGED MIDDLE UPzEX M
  IDDLE CONJOINEDzEX MIDDLE CONJOINED INDEX BENTzEX MIDDLE CONJOINED MIDDLE BENTzEX MIDDLE CONJOINED
   CUPPEDzEX MIDDLE CONJOINED HINGEDzEX MIDDLE CROSSEDrCIRCLE INDEX MIDDLE CROSSEDrFIST MIDDLE BENT 
  OVER INDEXwINDEX BENT OVER MIDDLEzEX MIDDLE THUMBrCIRCLE INDEX MIDDLE THUMBrFIST INDEX MIDDLE STRA
  IGHT THUMB BENTzEX MIDDLE BENT THUMB STRAIGHTzEX MIDDLE THUMB BENTzEX MIDDLE HINGED SPREAD THUMB S
  IDEzEX UP MIDDLE HINGED THUMB SIDEzEX UP MIDDLE HINGED THUMB CONJOINEDzEX HINGED MIDDLE UP THUMB S
  IDEzEX MIDDLE UP SPREAD THUMB FORWARDzEX MIDDLE THUMB CUPPEDzEX MIDDLE THUMB CIRCLEDzEX MIDDLE THU
  MB HOOKEDzEX MIDDLE THUMB HINGEDwTHUMB BETWEEN INDEX MIDDLE STRAIGHTwINDEX MIDDLE CONJOINED THUMB 
  SIDEzEX MIDDLE CONJOINED THUMB SIDE CONJOINEDzEX MIDDLE CONJOINED THUMB SIDE BENTwMIDDLE THUMB HOO
  KED INDEX UPwINDEX THUMB HOOKED MIDDLE UPzEX MIDDLE CONJOINED HINGED THUMB SIDEzEX MIDDLE CROSSED 
  THUMB SIDEzEX MIDDLE CONJOINED THUMB FORWARDzEX MIDDLE CONJOINED CUPPED THUMB FORWARDwMIDDLE THUMB
   CUPPED INDEX UPwINDEX THUMB CUPPED MIDDLE UPwMIDDLE THUMB CIRCLED INDEX UPzDLE THUMB CIRCLED INDE
  X HINGEDwINDEX THUMB ANGLED OUT MIDDLE UPzEX THUMB ANGLED IN MIDDLE UPzEX THUMB CIRCLED MIDDLE UPz
  EX MIDDLE THUMB CONJOINED HINGEDzEX MIDDLE THUMB ANGLED OUTzEX MIDDLE THUMB ANGLEDwMIDDLE THUMB AN
  GLED OUT INDEX UPzDLE THUMB ANGLED OUT INDEX CROSSEDzDLE THUMB ANGLED INDEX UPwINDEX THUMB HOOKED 
  MIDDLE HINGEDsLAT FOUR FINGERSzR FINGERS BENTzR FINGERS HINGEDzR FINGERS CONJOINEDzR FINGERS CONJO
  INED SPLITrCLAW FOUR FINGERS CONJOINEDrFIST FOUR FINGERS CONJOINED BENTrHINGE FOUR FINGERS CONJOIN
  EDrFLAT FIVE FINGERS SPREADwHEEL FIVE FINGERS SPREADwFIVE FINGERS SPREAD FOUR BENTwHEEL FIVE FINGE
  RS SPREAD FOUR BENTwFIVE FINGERS SPREAD BENTwHEEL FIVE FINGERS SPREAD BENTwFIVE FINGERS SPREAD THU
  MB FORWARDrCUP FIVE FINGERS SPREADz FINGERS SPREAD OPENrHINGE FIVE FINGERS SPREAD OPENrOVAL FIVE F
  INGERS SPREADrFLAT FIVE FINGERS SPREAD HINGEDzE FINGERS SPREAD HINGED THUMB SIDEzE FINGERS SPREAD 
  HINGED NO THUMBvv BETWEEN PALM FACINGSwHEELwTHUMB SIDEwHEEL THUMB SIDEwTHUMB BENTzMB FORWARDwSPLIT
   INDEX THUMB SIDEzIT CENTREzIT CENTRE THUMB SIDEzIT CENTRE THUMB SIDE BENTzIT LITTLErCLAWv THUMB S
  IDEwNO THUMBwTHUMB FORWARDrHOOK CURLICUEvrCUP OPENuu OPEN THUMB SIDEvTHUMB SIDEvOPEN NO THUMBvNO T
  HUMBvOPEN THUMB FORWARDvTHUMB FORWARDtRLICUE OPENzsIRCLErOVALv THUMB SIDEwNO THUMBwTHUMB FORWARDrH
  INGE OPENzEN THUMB FORWARDww SMALLxOPEN THUMB SIDExTHUMB SIDExOPEN NO THUMBxNO THUMBxTHUMB SIDE TO
  UCHING INDEXzUMB BETWEEN MIDDLE RINGrANGLErFIST INDEX MIDDLE RINGrCIRCLE INDEX MIDDLE RINGrHINGE I
  NDEX MIDDLE RINGrANGLE INDEX MIDDLE RINGrHINGE LITTLErFIST INDEX MIDDLE RING BENTzEX MIDDLE RING C
  ONJOINEDrHINGE INDEX MIDDLE RING CONJOINEDrFIST LITTLE DOWNzTLE DOWN RIPPLE STRAIGHTzTLE DOWN RIPP
  LE CURVEDzTLE DOWN OTHERS CIRCLEDzTLE UPwTHUMB UNDER LITTLE UPrCIRCLE LITTLE UPrOVAL LITTLE UPrANG
  LE LITTLE UPrFIST LITTLE RAISED KNUCKLEzTLE BENTzTLE TOUCHES THUMBzTLE THUMBrHINGE LITTLE THUMBrFI
  ST LITTLE INDEX THUMBrHINGE LITTLE INDEX THUMBrANGLE LITTLE INDEX THUMB INDEX THUMB OUTzTTLE INDEX
   THUMB INDEX THUMBrFIST LITTLE INDEXrCIRCLE LITTLE INDEXrHINGE LITTLE INDEXrANGLE LITTLE INDEXrFIS
  T INDEX MIDDLE LITTLErCIRCLE INDEX MIDDLE LITTLErHINGE INDEX MIDDLE LITTLExRINGrANGLE INDEX MIDDLE
   LITTLErFIST INDEX MIDDLE CROSS LITTLErCIRCLE INDEX MIDDLE CROSS LITTLErFIST RING DOWNrHINGE RING 
  DOWN INDEX THUMB HOOK MIDDLErANGLE RING DOWN MIDDLE THUMB INDEX CROSSrFIST RING UPzG RAISED KNUCKL
  EzG LITTLErCIRCLE RING LITTLErOVAL RING LITTLErANGLE RING LITTLErFIST RING MIDDLEzG MIDDLE CONJOIN
  EDzG MIDDLE RAISED KNUCKLESzG INDEXzG THUMBrHOOK RING THUMBrFIST INDEX RING LITTLErCIRCLE INDEX RI
  NG LITTLEsURLICUE INDEX RING LITTLE ONrHOOK INDEX RING LITTLE OUTzEX RING LITTLE INzEX RING LITTLE
   UNDERrCUP INDEX RING LITTLErHINGE INDEX RING LITTLErANGLE INDEX RING LITTLE OUTzDEX RING LITTLErF
  IST MIDDLE DOWNrHINGE MIDDLErFIST MIDDLE UPrCIRCLE MIDDLE UPrFIST MIDDLE RAISED KNUCKLEzDLE UP THU
  MB SIDErHOOK MIDDLE THUMBrFIST MIDDLE THUMB LITTLEzDLE LITTLEzDLE RING LITTLErCIRCLE MIDDLE RING L
  ITTLEsURLICUE MIDDLE RING LITTLE ONtP MIDDLE RING LITTLErHINGE MIDDLE RING LITTLErANGLE MIDDLE RIN
  G LITTLE OUTzDDLE RING LITTLE INzDDLE RING LITTLErCIRCLE MIDDLE RING LITTLE BENTsLAW MIDDLE RING L
  ITTLE CONJOINEDzDLE RING LITTLE CONJOINED SIDErHOOK MIDDLE RING LITTLE CONJOINED OUTzDLE RING LITT
  LE CONJOINED INzDLE RING LITTLE CONJOINEDsINGE INDEX HINGEDrFIST INDEX THUMB SIDErHINGE INDEX THUM
  B SIDErFIST INDEX THUMB SIDE THUMB DIAGONALzEX THUMB SIDE THUMB CONJOINEDzEX THUMB SIDE THUMB BENT
  zEX THUMB SIDE INDEX BENTzEX THUMB SIDE BOTH BENTzEX THUMB SIDE INDEX HINGEzEX THUMB FORWARD INDEX
   STRAIGHTzEX THUMB FORWARD INDEX BENTzEX THUMB HOOKzEX THUMB CURLICUEzEX THUMB CURVE THUMB INSIDEr
  CLAW INDEX THUMB CURVE THUMB INSIDErFIST INDEX THUMB CURVE THUMB UNDERzEX THUMB CIRCLErCUP INDEX T
  HUMBzX THUMB OPENrHINGE INDEX THUMB OPENzDEX THUMB LARGEzDEX THUMBzDEX THUMB SMALLrANGLE INDEX THU
  MB OUTzDEX THUMB INzDEX THUMBrFIST THUMBzMB HEELzMB SIDE DIAGONALzMB SIDE CONJOINEDzMB SIDE BENTzM
  B FORWARDzMB BETWEEN INDEX MIDDLEzMB BETWEEN MIDDLE RINGzMB BETWEEN RING LITTLEzMB UNDER TWO FINGE
  RSzMB OVER TWO FINGERSzMB UNDER THREE FINGERSzMB UNDER FOUR FINGERSzMB OVER FOUR RAISED KNUCKLESvv
   HEELmTOUCH SINGLEsMULTIPLEsBETWEENmGRASP SINGLEsMULTIPLEsBETWEENmSTRIKE SINGLEtMULTIPLEtBETWEENmB
  RUSH SINGLEsMULTIPLEsBETWEENmRUB SINGLEqMULTIPLEqBETWEENmSURFACE SYMBOLSuBETWEENnQUEEZE LARGE SING
  LEuSMALL SINGLEuLARGE MULTIPLEuSMALL MULTIPLEvEQUENTIALmFLICK LARGE SINGLEsSMALL SINGLEsLARGE MULT
  IPLEsSMALL MULTIPLEtEQUENTIALmSQUEEZE FLICK ALTERNATINGmMOVEMENT-HINGE UP DOWN LARGEzE UP DOWN SMA
  LLzE UP SEQUENTIALzE DOWN SEQUENTIALzE UP DOWN ALTERNATING LARGEzE UP DOWN ALTERNATING SMALLzE SID
  E TO SIDE SCISSORSvWALLPLANE FINGER CONTACTvFLOORPLANE FINGER CONTACTvWALLPLANE SINGLE STRAIGHT SM
  ALLzPLANE SINGLE STRAIGHT MEDIUMzPLANE SINGLE STRAIGHT LARGEzPLANE SINGLE STRAIGHT LARGESTzPLANE S
  INGLE WRIST FLEXzPLANE DOUBLE STRAIGHTzPLANE DOUBLE WRIST FLEXzPLANE DOUBLE ALTERNATINGzPLANE DOUB
  LE ALTERNATING WRIST FLEXzPLANE CROSSzPLANE TRIPLE STRAIGHT MOVEMENTzPLANE TRIPLE WRIST FLEXzPLANE
   TRIPLE ALTERNATINGzPLANE TRIPLE ALTERNATING WRIST FLEXzPLANE BEND SMALLzPLANE BEND MEDIUMzPLANE B
  END LARGEzPLANE CORNER SMALLzPLANE CORNER MEDIUMzPLANE CORNER LARGEzPLANE CORNER ROTATIONzPLANE CH
  ECK SMALLzPLANE CHECK MEDIUMzPLANE CHECK LARGEzPLANE BOX SMALLzPLANE BOX MEDIUMzPLANE BOX LARGEzPL
  ANE ZIGZAG SMALLzPLANE ZIGZAG MEDIUMzPLANE ZIGZAG LARGEzPLANE PEAKS SMALLzPLANE PEAKS MEDIUMzPLANE
   PEAKS LARGEmTRAVEL-WALLPLANE ROTATION-WALLPLANE SINGLEzANE ROTATION-WALLPLANE DOUBLEzANE ROTATION
  -WALLPLANE ALTERNATINGzANE ROTATION-FLOORPLANE SINGLEzANE ROTATION-FLOORPLANE DOUBLEzANE ROTATION-
  FLOORPLANE ALTERNATINGzANE SHAKINGzANE ARM SPIRAL SINGLEzANE ARM SPIRAL DOUBLEzANE ARM SPIRAL TRIP
  LEmMOVEMENT-DIAGONAL AWAY SMALLzONAL AWAY MEDIUMzONAL AWAY LARGEzONAL AWAY LARGESTzONAL TOWARDS SM
  ALLzONAL TOWARDS MEDIUMzONAL TOWARDS LARGEzONAL TOWARDS LARGESTzONAL BETWEEN AWAY SMALLzONAL BETWE
  EN AWAY MEDIUMzONAL BETWEEN AWAY LARGEzONAL BETWEEN AWAY LARGESTzONAL BETWEEN TOWARDS SMALLzONAL B
  ETWEEN TOWARDS MEDIUMzONAL BETWEEN TOWARDS LARGEzONAL BETWEEN TOWARDS LARGESTvFLOORPLANE SINGLE ST
  RAIGHT SMALLzRPLANE SINGLE STRAIGHT MEDIUMzRPLANE SINGLE STRAIGHT LARGEzRPLANE SINGLE STRAIGHT LAR
  GESTzRPLANE SINGLE WRIST FLEXzRPLANE DOUBLE STRAIGHTzRPLANE DOUBLE WRIST FLEXzRPLANE DOUBLE ALTERN
  ATINGzRPLANE DOUBLE ALTERNATING WRIST FLEXzRPLANE CROSSzRPLANE TRIPLE STRAIGHT MOVEMENTzRPLANE TRI
  PLE WRIST FLEXzRPLANE TRIPLE ALTERNATING MOVEMENTzRPLANE TRIPLE ALTERNATING WRIST FLEXzRPLANE BEND
  zRPLANE CORNER SMALLzRPLANE CORNER MEDIUMzRPLANE CORNER LARGEzRPLANE CHECKzRPLANE BOX SMALLzRPLANE
   BOX MEDIUMzRPLANE BOX LARGEzRPLANE ZIGZAG SMALLzRPLANE ZIGZAG MEDIUMzRPLANE ZIGZAG LARGEzRPLANE P
  EAKS SMALLzRPLANE PEAKS MEDIUMzRPLANE PEAKS LARGEmTRAVEL-FLOORPLANE ROTATION-FLOORPLANE SINGLEzLAN
  E ROTATION-FLOORPLANE DOUBLEzLANE ROTATION-FLOORPLANE ALTERNATINGzLANE ROTATION-WALLPLANE SINGLEzL
  ANE ROTATION-WALLPLANE DOUBLEzLANE ROTATION-WALLPLANE ALTERNATINGzLANE SHAKINGmMOVEMENT-WALLPLANE 
  CURVE QUARTER SMALLzPLANE CURVE QUARTER MEDIUMzPLANE CURVE QUARTER LARGEzPLANE CURVE QUARTER LARGE
  STzPLANE CURVE HALF-CIRCLE SMALLzPLANE CURVE HALF-CIRCLE MEDIUMzPLANE CURVE HALF-CIRCLE LARGEzPLAN
  E CURVE HALF-CIRCLE LARGESTzPLANE CURVE THREE-QUARTER CIRCLE SMALLzPLANE CURVE THREE-QUARTER CIRCL
  E MEDIUMzPLANE HUMP SMALLzPLANE HUMP MEDIUMzPLANE HUMP LARGEzPLANE LOOP SMALLzPLANE LOOP MEDIUMzPL
  ANE LOOP LARGEzPLANE LOOP SMALL DOUBLEzPLANE WAVE CURVE DOUBLE SMALLzPLANE WAVE CURVE DOUBLE MEDIU
  MzPLANE WAVE CURVE DOUBLE LARGEzPLANE WAVE CURVE TRIPLE SMALLzPLANE WAVE CURVE TRIPLE MEDIUMzPLANE
   WAVE CURVE TRIPLE LARGEzPLANE CURVE THEN STRAIGHTzPLANE CURVED CROSS SMALLzPLANE CURVED CROSS MED
  IUMmROTATION-WALLPLANE SINGLEzPLANE DOUBLEzPLANE ALTERNATEmMOVEMENT-WALLPLANE SHAKINGzPLANE CURVE 
  HITTING FRONT WALLzPLANE HUMP HITTING FRONT WALLzPLANE LOOP HITTING FRONT WALLzPLANE WAVE HITTING 
  FRONT WALLmROTATION-WALLPLANE SINGLE HITTING FRONT WALLzPLANE DOUBLE HITTING FRONT WALLzPLANE ALTE
  RNATING HITTING FRONT WALLmMOVEMENT-WALLPLANE CURVE HITTING CHESTzPLANE HUMP HITTING CHESTzPLANE L
  OOP HITTING CHESTzPLANE WAVE HITTING CHESTmROTATION-WALLPLANE SINGLE HITTING CHESTzPLANE DOUBLE HI
  TTING CHESTzPLANE ALTERNATING HITTING CHESTmMOVEMENT-WALLPLANE WAVE DIAGONAL PATH SMALLzPLANE WAVE
   DIAGONAL PATH MEDIUMzPLANE WAVE DIAGONAL PATH LARGEvFLOORPLANE CURVE HITTING CEILING SMALLzRPLANE
   CURVE HITTING CEILING LARGEzRPLANE HUMP HITTING CEILING SMALL DOUBLEzRPLANE HUMP HITTING CEILING 
  LARGE DOUBLEzRPLANE HUMP HITTING CEILING SMALL TRIPLEzRPLANE HUMP HITTING CEILING LARGE TRIPLEzRPL
  ANE LOOP HITTING CEILING SMALL SINGLEzRPLANE LOOP HITTING CEILING LARGE SINGLEzRPLANE LOOP HITTING
   CEILING SMALL DOUBLEzRPLANE LOOP HITTING CEILING LARGE DOUBLEzRPLANE WAVE HITTING CEILING SMALLzR
  PLANE WAVE HITTING CEILING LARGEmROTATION-FLOORPLANE SINGLE HITTING CEILINGzRPLANE DOUBLE HITTING 
  CEILINGzRPLANE ALTERNATING HITTING CEILINGmMOVEMENT-FLOORPLANE CURVE HITTING FLOOR SMALLzRPLANE CU
  RVE HITTING FLOOR LARGEzRPLANE HUMP HITTING FLOOR SMALL DOUBLEzRPLANE HUMP HITTING FLOOR LARGE DOU
  BLEzRPLANE HUMP HITTING FLOOR TRIPLE SMALL TRIPLEzRPLANE HUMP HITTING FLOOR TRIPLE LARGE TRIPLEzRP
  LANE LOOP HITTING FLOOR SMALL SINGLEzRPLANE LOOP HITTING FLOOR LARGE SINGLEzRPLANE LOOP HITTING FL
  OOR SMALL DOUBLEzRPLANE LOOP HITTING FLOOR LARGE DOUBLEzRPLANE WAVE HITTING FLOOR SMALLzRPLANE WAV
  E HITTING FLOOR LARGEmROTATION-FLOORPLANE SINGLE HITTING FLOORzRPLANE DOUBLE HITTING FLOORzRPLANE 
  ALTERNATING HITTING FLOORmMOVEMENT-FLOORPLANE CURVE SMALLzRPLANE CURVE MEDIUMzRPLANE CURVE LARGEzR
  PLANE CURVE LARGESTzRPLANE CURVE COMBINEDzRPLANE HUMP SMALLzRPLANE LOOP SMALLzRPLANE WAVE SNAKEzRP
  LANE WAVE SMALLzRPLANE WAVE LARGEmROTATION-FLOORPLANE SINGLEzRPLANE DOUBLEzRPLANE ALTERNATINGmMOVE
  MENT-FLOORPLANE SHAKING PARALLELvWALLPLANE ARM CIRCLE SMALL SINGLEzPLANE ARM CIRCLE MEDIUM SINGLEz
  PLANE ARM CIRCLE SMALL DOUBLEzPLANE ARM CIRCLE MEDIUM DOUBLEvFLOORPLANE ARM CIRCLE HITTING WALL SM
  ALL SINGLEzRPLANE ARM CIRCLE HITTING WALL MEDIUM SINGLEzRPLANE ARM CIRCLE HITTING WALL LARGE SINGL
  EzRPLANE ARM CIRCLE HITTING WALL SMALL DOUBLEzRPLANE ARM CIRCLE HITTING WALL MEDIUM DOUBLEzRPLANE 
  ARM CIRCLE HITTING WALL LARGE DOUBLEvWALLPLANE WRIST CIRCLE FRONT SINGLEzPLANE WRIST CIRCLE FRONT 
  DOUBLEvFLOORPLANE WRIST CIRCLE HITTING WALL SINGLEzRPLANE WRIST CIRCLE HITTING WALL DOUBLEvWALLPLA
  NE FINGER CIRCLES SINGLEzPLANE FINGER CIRCLES DOUBLEvFLOORPLANE FINGER CIRCLES HITTING WALL SINGLE
  zRPLANE FINGER CIRCLES HITTING WALL DOUBLEmDYNAMIC ARROWHEAD SMALLzHEAD LARGEuFASTuSLOWuTENSEuRELA
  XEDuSIMULTANEOUSzTANEOUS ALTERNATINGuEVERY OTHER TIMEuGRADUALmHEADq RIMrMOVEMENT-WALLPLANE STRAIGH
  Tz-WALLPLANE TILTz-FLOORPLANE STRAIGHTz-WALLPLANE CURVEz-FLOORPLANE CURVEz CIRCLEmFACE DIRECTION P
  OSITION NOSE FORWARD TILTINGzN POSITION NOSE UP OR DOWNzN POSITION NOSE UP OR DOWN TILTINGmEYEBROW
  S STRAIGHT UPzIGHT NEUTRALzIGHT DOWNmDREAMY EYEBROWS NEUTRAL DOWNzWS DOWN NEUTRALzWS UP NEUTRALzWS
   NEUTRAL UPmFOREHEAD NEUTRALvCONTACTvWRINKLEDmEYES OPENrSQUEEZEDrCLOSEDp BLINK SINGLEwMULTIPLEpS H
  ALF OPENrWIDE OPENrHALF CLOSEDrWIDENING MOVEMENTp WINKpLASHES UPwDOWNwFLUTTERINGpGAZE-WALLPLANE ST
  RAIGHTzLANE STRAIGHT DOUBLEzLANE STRAIGHT ALTERNATINGuFLOORPLANE STRAIGHTzPLANE STRAIGHT DOUBLEzPL
  ANE STRAIGHT ALTERNATINGuWALLPLANE CURVEDuFLOORPLANE CURVEDuWALLPLANE CIRCLINGmCHEEKS PUFFEDtNEUTR
  ALtSUCKEDmTENSE CHEEKS HIGHzMIDDLEzLOWmEARSmNOSE NEUTRALrCONTACTrWRINKLESsIGGLESmAIR BLOWING OUTqS
  UCKING INqBLOW SMALL ROTATIONSqSUCK SMALL ROTATIONSmBREATH INHALEtEXHALEmMOUTH CLOSED NEUTRALzFORW
  ARDzCONTACTsSMILEx WRINKLEDyOPENsFROWNx WRINKLEDyOPENsOPEN CIRCLExFORWARDxWRINKLEDxOVALzAL WRINKLE
  DzAL YAWNxRECTANGLEzCTANGLE WRINKLEDzCTANGLE YAWNsKISSw FORWARDxWRINKLEDsTENSEx FORWARDySUCKEDmLIP
  S PRESSED TOGETHERp LOWER OVER UPPERqUPPER OVER LOWERmMOUTH CORNERSsWRINKLES SINGLEzS DOUBLEmTONGU
  E STICKING OUT FARtLICKING LIPStTIP BETWEEN LIPSxTOUCHING INSIDE MOUTHtINSIDE MOUTH RELAXEDtMOVES 
  AGAINST CHEEKtCENTRE STICKING OUTz INSIDE MOUTHnEETHr MOVEMENTsON TONGUEzUE MOVEMENTvLIPSz MOVEMEN
  TsBITE LIPSmMOVEMENT-WALLPLANE JAWvFLOORPLANE JAWmNECKmHAIRmEXCITEMENTmSHOULDER HIP SPINEzPOSITION
  SmWALLPLANE SHOULDER HIP MOVEmFLOORPLANE SHOULDER HIP MOVEmSHOULDER TILTING FROM WAISTmTORSO-WALLP
  LANE STRAIGHT STRETCHzNE CURVED BENDsFLOORPLANE TWISTINGmUPPER BODY TILTING FROM HIP JOINTSmLIMB C
  OMBINATIONrLENGTH-1y2y3y4y5y6y7mFINGERmLOCATION-WALLPLANE SPACEvFLOORPLANE SPACEu HEIGHTvWIDTHvDEP
  THvHEAD NECKvTORSOvLIMBS DIGITSmCOMMAmFULL STOPmSEMICOLONmCOLONmPARENTHESIS+1da9b.mFILL MODIFIER-2
  z-3z-4z-5z-6+1daa1.mROTATION MODIFIER-2zFIER-3zFIER-4zFIER-5zFIER-6zFIER-7zFIER-8zFIER-9zFIER-10zF
  IER-11zFIER-12zFIER-13zFIER-14zFIER-15zFIER-16+1df00.aLATIN SMALL LETTER FENG DIGRAPH WITH TRILLtR
  EVERSED SCRIPT GgLETTER SMALL CAPITAL TURNED GgSMALL LETTER REVERSED KgLETTER SMALL CAPITAL L WITH
   BELTgSMALL LETTER LEZH WITH RETROFLEX HOOKtTURNED Y WITH BELTtREVERSED ENGtTURNED R WITH LONG LEG
   AND RETROFLEX HOOKu WITH HOOK AND RETROFLEX HOOKgLETTER RETROFLEX CLICK WITH RETROFLEX HOOKgSMALL
   LETTER ESH WITH DOUBLE BARzTH DOUBLE BAR AND CURLtTURNED T WITH CURLgLETTER INVERTED GLOTTAL STOP
   WITH CURLnSTRETCHED C WITH CURLoMALL CAPITAL TURNED KgSMALL LETTER L WITH FISHHOOKtDEZH DIGRAPH W
  ITH PALATAL HOOKtL WITH BELT AND PALATAL HOOKtENG WITH PALATAL HOOKtTURNED R WITH PALATAL HOOKtR W
  ITH FISHHOOK AND PALATAL HOOKtTESH DIGRAPH WITH PALATAL HOOKtEZH WITH PALATAL HOOKtDEZH DIGRAPH WI
  TH RETROFLEX HOOKtI WITH STROKE AND RETROFLEX HOOKtO WITH RETROFLEX HOOKtTESH DIGRAPH WITH RETROFL
  EX HOOKtC WITH RETROFLEX HOOKtS WITH CURL+1e000.aCOMBINING GLAGOLITIC LETTER AZUzER BUKYzER VEDEzE
  R GLAGOLIzER DOBROzER YESTUzER ZHIVETE+1e008.zER ZEMLJAzER IZHEzER INITIAL IZHEzER IzER DJERVIzER 
  KAKOzER LJUDIJEzER MYSLITEzER NASHIzER ONUzER POKOJIzER RITSIzER SLOVOzER TVRIDOzER UKUzER FRITUzE
  R HERU+1e01b.zER SHTAzER TSIzER CHRIVIzER SHAzER YERUzER YERIzER YATI+1e023.zER YUzER SMALL YUS+1e
  026.zER YOzER IOTATED SMALL YUSzER BIG YUSzER IOTATED BIG YUSzER FITA+1e100.aNYIAKENG PUACHUE HMON
  G LETTER MAzTTER TSAzTTER NTAzTTER TAzTTER HAzTTER NAzTTER XAzTTER NKAzTTER CAzTTER LAzTTER SAzTTE
  R ZAzTTER NCAzTTER NTSAzTTER KAzTTER DAzTTER NYAzTTER NRAzTTER VAzTTER NTXAzTTER TXAzTTER FAzTTER 
  RAzTTER QAzTTER YAzTTER NQAzTTER PAzTTER XYAzTTER NPAzTTER DLAzTTER NPLAzTTER HAHzTTER MLAzTTER PL
  AzTTER GAzTTER RRAzTTER AzTTER AAzTTER IzTTER UzTTER OzTTER OOzTTER EzTTER EEzTTER W+1e130.xTONE-B
  zNE-MzNE-JzNE-VzNE-SzNE-GzNE-DxSIGN FOR PERSONzGN FOR THINGzGN FOR LOCATIONzGN FOR ANIMALzGN FOR I
  NVERTEBRATEzGN XW XWyYLLABLE LENGTHENER+1e140.xDIGIT ZEROzGIT ONEzGIT TWOzGIT THREEzGIT FOURzGIT F
  IVEzGIT SIXzGIT SEVENzGIT EIGHTzGIT NINE+1e14e.xLOGOGRAM NYAJxCIRCLED CA+1e290.aTOTO LETTER PAmBAm
  TAmDAmKAmGAmMAmNAnGAmSAmCHAmYAmWAmJAmHAmRAmLAmImBREATHY ImIUmBREATHY IUmUmEmBREATHY EmEOmBREATHY E
  OmOmAEmBREATHY AEmAfSIGN RISING TONE+1e2c0.aWANCHO LETTER AApoBAoCAoDAoGAoYAoPHAoLAoNAoPAoTApHAoFA
  oSApHAoJAoZAoWAoVAoKAoOoAUoRAoMAoKHAoHAoEoIoNGAoUoLLHAoTSApRAoONGoAANGpNGoINGoONoENoAANoNYAoUENoYI
  HhTONE TUPpNImKOIpNIhDIGIT ZEROnONEnTWOoHREEnFOURoIVEnSIXoEVENnEIGHTnNINE+1e2ff.hNGUN SIGN+1e7e0.a
  ETHIOPIC SYLLABLE HHYAvUvIvAAvEEwvO+1e7e8.sGURAGE HHWAsHHWIvEEw+1e7ed.sGURAGE MWIzMWEE+1e7f0.zQWIz
  QWEEzQWEzBWIzBWEEzKWIzKWEEzKWEzGWIzGWEEzGWEzFWIzFWEEzPWIzPWEE+1e800.aMENDE KIKAKUI SYLLABLE M001 K
  Iz02 KAz03 KUz65 KEEz95 KEz76 KOOz48 KOy179 KUAy004 WIz05 WAz06 WUy126 WEEz18 WEz14 WOOy045 WOy194
   WUIz43 WEIy061 WVIz49 WVAy139 WVEy007 MINz08 MANz09 MUNz59 MENz94 MONy154 MUANz89 MUENy010 BIz11 
  BAz12 BUy150 BEEy097 BEy103 BOOz38 BOy013 Iz14 Az15 Uy163 EEz00 Ez65 OOz47 Oz37 EIz31 INz35 INz95 
  ANz78 ENy019 SIz20 SAz21 SUy162 SEEz16 SEz36 SOOy079 SOy196 SIAy025 LIz26 LAz27 LUz84 LEEz73 LEz54
   LOOy153 LOz10 LONG LEy016 DIz17 DAz18 DUz89 DEEy180 DOOz81 DOy022 TIz23 TAz24 TUz91 TEEz55 TEy104
   TOOy069 TOz28 JIz29 JAz30 JUy157 JEEz13 JEz60 JOOy063 JOy175 LONG JOy031 YIz32 YAz33 YUy109 YEEy0
  80 YEy141 YOOz21 YOy034 FIz35 FAz36 FUz78 FEEz75 FEy133 FOOy088 FOy197 FUAz01 FANy037 NINz38 NANz3
  9 NUNy117 NENz69 NONz76 HIy041 HAy186 HUy040 HEEz96 HEz42 HOOy140 HOy083 HEEIy128 HOOUy053 HINy130
   HANy087 HUNz52 HENy193 HONy046 HUANz90 NGGIz43 NGGAz82 NGGUy115 NGGEEz46 NGGEz56 NGGOOz20 NGGOz59
   NGGAAz27 NGGUAy086 LONG NGGEy106 LONG NGGOOz83 LONG NGGOz55 GIz11 GAz68 GUz90 GEEz66 GUEIz67 GUAN
  z84 NGENy057 NGONy177 NGUANy068 PIz99 PAz50 PUz81 PEEz51 PEy102 POOy066 POy145 MBIy062 MBAy122 MBU
  y047 MBEEy188 MBEEy072 MBEy172 MBOOz74 MBOz87 MBUUz61 LONG MBEz05 LONG MBOOz42 LONG MBOz32 KPIy092
   KPAz74 KPUz44 KPEEy108 KPEz12 KPOOz58 KPOz24 GBIy056 GBAy148 GBUy093 GBEEy107 GBEy071 GBOOz70 GBO
  y171 RAz23 NDIz29 NDAz25 NDUz91 NDEEz19 NDEy067 NDOOz64 NDOy152 NJAz92 NJUz49 NJEEz34 NJOOz82 VIz8
  5 VAz51 VUz73 VEEy085 VEy144 VOOy077 VOy164 NYINy058 NYANy170 NYUNy098 NYENz60 NYON+1e8c7.oDIGIT O
  NEuTWOvHREEuFOURvIVEuSIXvEVENuEIGHTuNINEoCOMBINING NUMBER TEENSzUMBER TENSzUMBER HUNDREDSzUMBER TH
  OUSANDSzUMBER TEN THOUSANDSzUMBER HUNDRED THOUSANDSzUMBER MILLIONS+1e900.aADLAM CAPITAL LETTER ALI
  FvDAALIvLAAMvMIIMvBAvSINNYIIYHEvPEvBHEvRAvEvFAvIvOvDHAvYHEvWAWvNUNvKAFvYAvUvJIIMvCHIvHAvQAAFvGAvNY
  AvTUvNHAvVAvKHAvGBEvZALvKPOvSHAgSMALL LETTER ALIFtDAALItLAAMtMIIMtBAtSINNYIIYHEtPEtBHEtRAtEtFAtItO
  tDHAtYHEtWAWtNUNtKAFtYAtUtJIIMtCHItHAtQAAFtGAtNYAtTUtNHAtVAtKHAtGBEtZALtKPOtSHAgALIF LENGTHENERgVO
  WEL LENGTHENERgGEMINATION MARKgHAMZAgCONSONANT MODIFIERgGEMINATE CONSONANT MODIFIERgNUKTAhASALIZAT
  ION MARK+1e950.gDIGIT ZEROmONEmTWOnHREEmFOURnIVEmSIXnEVENmEIGHTmNINE+1e95e.gINITIAL EXCLAMATION MA
  RKoQUESTION MARK+1ec71.aINDIC SIYAQ NUMBER ONEtTWOuHREEtFOURuIVEtSIXuEVENtEIGHTtNINEtTENuWENTYuHIR
  TYtFORTYuIFTYtSIXTYuEVENTYtEIGHTYtNINETYtONE HUNDREDtTWO HUNDREDuHREE HUNDREDtFOUR HUNDREDuIVE HUN
  DREDtSIX HUNDREDuEVEN HUNDREDtEIGHT HUNDREDtNINE HUNDREDtONE THOUSANDtTWO THOUSANDuHREE THOUSANDtF
  OUR THOUSANDuIVE THOUSANDtSIX THOUSANDuEVEN THOUSANDtEIGHT THOUSANDtNINE THOUSANDtTEN THOUSANDuWEN
  TY THOUSANDuHIRTY THOUSANDtFORTY THOUSANDuIFTY THOUSANDtSIXTY THOUSANDuEVENTY THOUSANDtEIGHTY THOU
  SANDtNINETY THOUSANDtLAKHxANmLAKH MARKmNUMBER KARORyANtPREFIXED ONEzED TWOzED THREEzED FOURzED FIV
  EzED SIXzED SEVENzED EIGHTzED NINEmPLACEHOLDERmFRACTION ONE QUARTERzHALFvTHREE QUARTERSmRUPEE MARK
  mNUMBER ALTERNATE ONEzATE TWOzATE TEN THOUSANDmALTERNATE LAKH MARK+1ed01.aOTTOMAN SIYAQ NUMBER ONE
  vTWOwHREEvFOURwIVEvSIXwEVENvEIGHTvNINEvTENwWENTYwHIRTYvFORTYwIFTYvSIXTYwEVENTYvEIGHTYvNINETYvONE H
  UNDREDvTWO HUNDREDwHREE HUNDREDvFOUR HUNDREDwIVE HUNDREDvSIX HUNDREDwEVEN HUNDREDvEIGHT HUNDREDvNI
  NE HUNDREDvONE THOUSANDvTWO THOUSANDwHREE THOUSANDvFOUR THOUSANDwIVE THOUSANDvSIX THOUSANDwEVEN TH
  OUSANDvEIGHT THOUSANDvNINE THOUSANDvTEN THOUSANDwWENTY THOUSANDwHIRTY THOUSANDvFORTY THOUSANDwIFTY
   THOUSANDvSIXTY THOUSANDwEVENTY THOUSANDvEIGHTY THOUSANDvNINETY THOUSANDoMARRATANoALTERNATE NUMBER
   TWOzUMBER THREEzUMBER FOURzUMBER FIVEzUMBER SIXzUMBER SEVENzUMBER EIGHTzUMBER NINEzUMBER TENzUMBE
  R FOUR HUNDREDzUMBER SIX HUNDREDzUMBER TWO THOUSANDzUMBER TEN THOUSANDoFRACTION ONE HALFzE SIXTH+1
  ee00.aARABIC MATHEMATICAL ALEFuBEHuJEEMuDAL+1ee05.uWAWuZAINuHAHuTAHuYEHuKAFuLAMuMEEMuNOONuSEENuAIN
  uFEHuSADuQAFuREHuSHEENuTEHvHEHuKHAHuTHALuDADuZAHuGHAINuDOTLESS BEHzSS NOONzSS FEHzSS QAF+1ee21.uIN
  ITIAL BEHzAL JEEM+1ee24.zAL HEH+1ee27.zAL HAH+1ee29.zAL YEHzAL KAFzAL LAMzAL MEEMzAL NOONzAL SEENz
  AL AINzAL FEHzAL SADzAL QAF+1ee34.zAL SHEENzAL TEHzAL THEHzAL KHAH+1ee39.zAL DAD+1ee3b.zAL GHAIN+1
  ee42.uTAILED JEEM+1ee47.zD HAH+1ee49.zD YEH+1ee4b.zD LAM+1ee4d.zD NOONzD SEENzD AIN+1ee51.zD SADzD
   QAF+1ee54.zD SHEEN+1ee57.zD KHAH+1ee59.zD DAD+1ee5b.zD GHAIN+1ee5d.zD DOTLESS NOON+1ee5f.zD DOTLE
  SS QAF+1ee61.uSTRETCHED BEHzCHED JEEM+1ee64.zCHED HEH+1ee67.zCHED HAHzCHED TAHzCHED YEHzCHED KAF+1
  ee6c.zCHED MEEMzCHED NOONzCHED SEENzCHED AINzCHED FEHzCHED SADzCHED QAF+1ee74.zCHED SHEENzCHED TEH
  zCHED THEHzCHED KHAH+1ee79.zCHED DADzCHED ZAHzCHED GHAINzCHED DOTLESS BEH+1ee7e.zCHED DOTLESS FEH+
  1ee80.uLOOPED ALEFzD BEHzD JEEMzD DALzD HEHzD WAWzD ZAINzD HAHzD TAHzD YEH+1ee8b.zD LAMzD MEEMzD N
  OONzD SEENzD AINzD FEHzD SADzD QAFzD REHzD SHEENzD TEHzD THEHzD KHAHzD THALzD DADzD ZAHzD GHAIN+1e
  ea1.uDOUBLE-STRUCK BEHzE-STRUCK JEEMzE-STRUCK DAL+1eea5.zE-STRUCK WAWzE-STRUCK ZAINzE-STRUCK HAHzE
  -STRUCK TAHzE-STRUCK YEH+1eeab.zE-STRUCK LAMzE-STRUCK MEEMzE-STRUCK NOONzE-STRUCK SEENzE-STRUCK AI
  NzE-STRUCK FEHzE-STRUCK SADzE-STRUCK QAFzE-STRUCK REHzE-STRUCK SHEENzE-STRUCK TEHzE-STRUCK THEHzE-
  STRUCK KHAHzE-STRUCK THALzE-STRUCK DADzE-STRUCK ZAHzE-STRUCK GHAIN+1eef0.uOPERATOR MEEM WITH HAH W
  ITH TATWEELzTOR HAH WITH DAL+1f000.aMAHJONG TILE EAST WINDnSOUTH WINDnWEST WINDnNORTH WINDnRED DRA
  GONnGREEN DRAGONnWHITE DRAGONnONE OF CHARACTERSnTWO OF CHARACTERSoHREE OF CHARACTERSnFOUR OF CHARA
  CTERSoIVE OF CHARACTERSnSIX OF CHARACTERSoEVEN OF CHARACTERSnEIGHT OF CHARACTERSnNINE OF CHARACTER
  SnONE OF BAMBOOSnTWO OF BAMBOOSoHREE OF BAMBOOSnFOUR OF BAMBOOSoIVE OF BAMBOOSnSIX OF BAMBOOSoEVEN
   OF BAMBOOSnEIGHT OF BAMBOOSnNINE OF BAMBOOSnONE OF CIRCLESnTWO OF CIRCLESoHREE OF CIRCLESnFOUR OF
   CIRCLESoIVE OF CIRCLESnSIX OF CIRCLESoEVEN OF CIRCLESnEIGHT OF CIRCLESnNINE OF CIRCLESnPLUMnORCHI
  DnBAMBOOnCHRYSANTHEMUMnSPRINGoUMMERnAUTUMNnWINTERnJOKERnBACK+1f030.aDOMINO TILE HORIZONTAL BACKw-0
  0-00z-01z-02z-03z-04z-05z-06y1-00z-01z-02z-03z-04z-05z-06y2-00z-01z-02z-03z-04z-05z-06y3-00z-01z-0
  2z-03z-04z-05z-06y4-00z-01z-02z-03z-04z-05z-06y5-00z-01z-02z-03z-04z-05z-06y6-00z-01z-02z-03z-04z-
  05z-06mVERTICAL BACKu-00-00z1z2z3z4z5z6w1-00z1z2z3z4z5z6w2-00z1z2z3z4z5z6w3-00z1z2z3z4z5z6w4-00z1z
  2z3z4z5z6w5-00z1z2z3z4z5z6w6-00z1z2z3z4z5z6+1f0a0.aPLAYING CARD BACKnACE OF SPADESnTWO OF SPADESoH
  REE OF SPADESnFOUR OF SPADESoIVE OF SPADESnSIX OF SPADESoEVEN OF SPADESnEIGHT OF SPADESnNINE OF SP
  ADESnTEN OF SPADESnJACK OF SPADESnKNIGHT OF SPADESnQUEEN OF SPADESnKING OF SPADES+1f0b1.nACE OF HE
  ARTSnTWO OF HEARTSoHREE OF HEARTSnFOUR OF HEARTSoIVE OF HEARTSnSIX OF HEARTSoEVEN OF HEARTSnEIGHT 
  OF HEARTSnNINE OF HEARTSnTEN OF HEARTSnJACK OF HEARTSnKNIGHT OF HEARTSnQUEEN OF HEARTSnKING OF HEA
  RTSnRED JOKER+1f0c1.nACE OF DIAMONDSnTWO OF DIAMONDSoHREE OF DIAMONDSnFOUR OF DIAMONDSoIVE OF DIAM
  ONDSnSIX OF DIAMONDSoEVEN OF DIAMONDSnEIGHT OF DIAMONDSnNINE OF DIAMONDSnTEN OF DIAMONDSnJACK OF D
  IAMONDSnKNIGHT OF DIAMONDSnQUEEN OF DIAMONDSnKING OF DIAMONDSnBLACK JOKER+1f0d1.nACE OF CLUBSnTWO 
  OF CLUBSoHREE OF CLUBSnFOUR OF CLUBSoIVE OF CLUBSnSIX OF CLUBSoEVEN OF CLUBSnEIGHT OF CLUBSnNINE O
  F CLUBSnTEN OF CLUBSnJACK OF CLUBSnKNIGHT OF CLUBSnQUEEN OF CLUBSnKING OF CLUBSnWHITE JOKERnFOOLnT
  RUMP-1t2t3t4t5t6t7t8t9t10u1u2u3u4u5u6u7u8u9t20u1+1f100.aDIGIT ZERO FULL STOPlCOMMAgONE COMMAgTWO C
  OMMAhHREE COMMAgFOUR COMMAhIVE COMMAgSIX COMMAhEVEN COMMAgEIGHT COMMAgNINE COMMAcNGBAT CIRCLED SAN
  S-SERIF DIGIT ZEROiNEGATIVE CIRCLED SANS-SERIF DIGIT ZEROaCIRCLED ZERO WITH SLASHiANTICLOCKWISE AR
  ROWiDOLLAR SIGN WITH OVERLAID BACKSLASHaPARENTHESIZED LATIN CAPITAL LETTER AzAL LETTER BzAL LETTER
   CzAL LETTER DzAL LETTER EzAL LETTER FzAL LETTER GzAL LETTER HzAL LETTER IzAL LETTER JzAL LETTER K
  zAL LETTER LzAL LETTER MzAL LETTER NzAL LETTER OzAL LETTER PzAL LETTER QzAL LETTER RzAL LETTER SzA
  L LETTER TzAL LETTER UzAL LETTER VzAL LETTER WzAL LETTER XzAL LETTER YzAL LETTER ZaTORTOISE SHELL 
  BRACKETED LATIN CAPITAL LETTER SaCIRCLED ITALIC LATIN CAPITAL LETTER CzTAL LETTER RiCDiWZbOPYLEFT 
  SYMBOLaSQUARED LATIN CAPITAL LETTER AzTER BzTER CzTER DzTER EzTER FzTER GzTER HzTER IzTER JzTER Kz
  TER LzTER MzTER NzTER OzTER PzTER QzTER RzTER SzTER TzTER UzTER VzTER WzTER XzTER YzTER ZiHViMViSD
  jSiPPViWCaNEGATIVE CIRCLED LATIN CAPITAL LETTER AzPITAL LETTER BzPITAL LETTER CzPITAL LETTER DzPIT
  AL LETTER EzPITAL LETTER FzPITAL LETTER GzPITAL LETTER HzPITAL LETTER IzPITAL LETTER JzPITAL LETTE
  R KzPITAL LETTER LzPITAL LETTER MzPITAL LETTER NzPITAL LETTER OzPITAL LETTER PzPITAL LETTER QzPITA
  L LETTER RzPITAL LETTER SzPITAL LETTER TzPITAL LETTER UzPITAL LETTER VzPITAL LETTER WzPITAL LETTER
   XzPITAL LETTER YzPITAL LETTER ZaRAISED MC SIGNiD SIGNiR SIGNaCIRCLED CCj WITH OVERLAID BACKSLASHi
  HUMAN FIGUREaNEGATIVE SQUARED LATIN CAPITAL LETTER AzPITAL LETTER BzPITAL LETTER CzPITAL LETTER Dz
  PITAL LETTER EzPITAL LETTER FzPITAL LETTER GzPITAL LETTER HzPITAL LETTER IzPITAL LETTER JzPITAL LE
  TTER KzPITAL LETTER LzPITAL LETTER MzPITAL LETTER NzPITAL LETTER OzPITAL LETTER PzPITAL LETTER QzP
  ITAL LETTER RzPITAL LETTER SzPITAL LETTER TzPITAL LETTER UzPITAL LETTER VzPITAL LETTER WzPITAL LET
  TER XzPITAL LETTER YzPITAL LETTER ZaCROSSED NEGATIVE SQUARED LATIN CAPITAL LETTER PaNEGATIVE SQUAR
  ED ICrPArSArABrWCaSQUARE DJgD CLjOOLiFREEiIDiNEWjGiOKiSOSiUP WITH EXCLAMATION MARKiVSiTHREE DiSECO
  ND SCREENiTWO KiFOUR KiEIGHT KiFIVE POINT ONEiSEVEN POINT ONEiTWENTY-TWO POINT TWOiSIXTY PiONE HUN
  DRED TWENTY PiLATIN SMALL LETTER DiHCjDRjI-RESiLOSSLESSiSHViUHDiVODaMASK WORK SYMBOL+1f1e6.aREGION
  AL INDICATOR SYMBOL LETTER Az LETTER Bz LETTER Cz LETTER Dz LETTER Ez LETTER Fz LETTER Gz LETTER H
  z LETTER Iz LETTER Jz LETTER Kz LETTER Lz LETTER Mz LETTER Nz LETTER Oz LETTER Pz LETTER Qz LETTER
   Rz LETTER Sz LETTER Tz LETTER Uz LETTER Vz LETTER Wz LETTER Xz LETTER Yz LETTER ZaSQUARE HIRAGANA
   HOKAgD KATAKANA KOKOrSA+1f210.iCJK UNIFIED IDEOGRAPH-624BzRAPH-5B57zRAPH-53CCiKATAKANA DEiCJK UNI
  FIED IDEOGRAPH-4E8CzRAPH-591AzRAPH-89E3zRAPH-5929zRAPH-4EA4zRAPH-6620zRAPH-7121zRAPH-6599zRAPH-524
  DzRAPH-5F8CzRAPH-518DzRAPH-65B0zRAPH-521DzRAPH-7D42zRAPH-751FzRAPH-8CA9zRAPH-58F0zRAPH-5439zRAPH-6
  F14zRAPH-6295zRAPH-6355zRAPH-4E00zRAPH-4E09zRAPH-904AzRAPH-5DE6zRAPH-4E2DzRAPH-53F3zRAPH-6307zRAPH
  -8D70zRAPH-6253zRAPH-7981zRAPH-7A7AzRAPH-5408zRAPH-6E80zRAPH-6709zRAPH-6708zRAPH-7533zRAPH-5272zRA
  PH-55B6zRAPH-914D+1f240.aTORTOISE SHELL BRACKETED CJK UNIFIED IDEOGRAPH-672CzCJK UNIFIED IDEOGRAPH
  -4E09zCJK UNIFIED IDEOGRAPH-4E8CzCJK UNIFIED IDEOGRAPH-5B89zCJK UNIFIED IDEOGRAPH-70B9zCJK UNIFIED
   IDEOGRAPH-6253zCJK UNIFIED IDEOGRAPH-76D7zCJK UNIFIED IDEOGRAPH-52DDzCJK UNIFIED IDEOGRAPH-6557+1
  f250.aCIRCLED IDEOGRAPH ADVANTAGEtCCEPT+1f260.aROUNDED SYMBOL FOR FUtLUtSHOUtXItSHUANGXItCAI+1f300
  .aCYCLONEaFOGGYaCLOSED UMBRELLAaNIGHT WITH STARSaSUNRISE OVER MOUNTAINShaCITYSCAPE AT DUSKaSUNSET 
  OVER BUILDINGSaRAINBOWaBRIDGE AT NIGHTaWATER WAVEaVOLCANOaMILKY WAYaEARTH GLOBE EUROPE-AFRICAmAMER
  ICASnSIA-AUSTRALIAaGLOBE WITH MERIDIANSaNEW MOON SYMBOLaWAXING CRESCENT MOON SYMBOLaFIRST QUARTER 
  MOON SYMBOLaWAXING GIBBOUS MOON SYMBOLaFULL MOON SYMBOLaWANING GIBBOUS MOON SYMBOLaLAST QUARTER MO
  ON SYMBOLaWANING CRESCENT MOON SYMBOLaCRESCENT MOONaNEW MOON WITH FACEaFIRST QUARTER MOON WITH FAC
  EaLAST QUARTER MOON WITH FACEaFULL MOON WITH FACEaSUN WITH FACEaGLOWING STARaSHOOTING STARaTHERMOM
  ETERaBLACK DROPLETaWHITE SUNj WITH SMALL CLOUDkBEHIND CLOUDw WITH RAINaCLOUD WITH RAINlSNOWlLIGHTN
  INGlTORNADOaFOGaWIND BLOWING FACEaHOT DOGaTACOaBURRITOaCHESTNUTaSEEDLINGaEVERGREEN TREEaDECIDUOUS 
  TREEaPALM TREEaCACTUSaHOT PEPPERaTULIPaCHERRY BLOSSOMaROSEaHIBISCUSaSUNFLOWERaBLOSSOMaEAR OF MAIZE
  hRICEaHERBaFOUR LEAF CLOVERaMAPLE LEAFaFALLEN LEAFaLEAF FLUTTERING IN WINDaMUSHROOMaTOMATOaAUBERGI
  NEaGRAPESaMELONaWATERMELONaTANGERINEaLEMONaBANANAaPINEAPPLEaRED APPLEaGREEN APPLEaPEARdCHaCHERRIES
  aSTRAWBERRYaHAMBURGERaSLICE OF PIZZAaMEAT ON BONEaPOULTRY LEGaRICE CRACKERfBALLaCOOKED RICEbURRY A
  ND RICEaSTEAMING BOWLbPAGHETTIaBREADaFRENCH FRIESaROASTED SWEET POTATOaDANGOaODENaSUSHIaFRIED SHRI
  MPbISH CAKE WITH SWIRL DESIGNaSOFT ICE CREAMbHAVED ICEaICE CREAMaDOUGHNUTaCOOKIEbHOCOLATE BARbANDY
  aLOLLIPOPaCUSTARDaHONEY POTaSHORTCAKEaBENTO BOXaPOT OF FOODaCOOKINGaFORK AND KNIFEaTEACUP WITHOUT 
  HANDLEaSAKE BOTTLE AND CUPaWINE GLASSaCOCKTAIL GLASSaTROPICAL DRINKaBEER MUGaCLINKING BEER MUGSaBA
  BY BOTTLEaFORK AND KNIFE WITH PLATEaBOTTLE WITH POPPING CORKaPOPCORNaRIBBONaWRAPPED PRESENTaBIRTHD
  AY CAKEaJACK-O-LANTERNaCHRISTMAS TREEaFATHER CHRISTMASbIREWORKSi SPARKLERaBALLOONaPARTY POPPERaCON
  FETTI BALLaTANABATA TREEaCROSSED FLAGSaPINE DECORATIONaJAPANESE DOLLSaCARP STREAMERaWIND CHIMEaMOO
  N VIEWING CEREMONYaSCHOOL SATCHELaGRADUATION CAPaHEART WITH TIP ON THE LEFTaBOUQUET OF FLOWERSaMIL
  ITARY MEDALaREMINDER RIBBONaMUSICAL KEYBOARD WITH JACKSaSTUDIO MICROPHONEaLEVEL SLIDERaCONTROL KNO
  BSaBEAMED ASCENDING MUSICAL NOTEShDESCENDING MUSICAL NOTESaFILM FRAMESaADMISSION TICKETSaCAROUSEL 
  HORSEaFERRIS WHEELaROLLER COASTERaFISHING POLE AND FISHaMICROPHONEbOVIE CAMERAaCINEMAaHEADPHONEaAR
  TIST PALETTEaTOP HATaCIRCUS TENTaTICKETaCLAPPER BOARDaPERFORMING ARTSaVIDEO GAMEaDIRECT HITaSLOT M
  ACHINEaBILLIARDSaGAME DIEaBOWLINGaFLOWER PLAYING CARDSaMUSICAL NOTEcLTIPLE MUSICAL NOTESaSAXOPHONE
  aGUITARaMUSICAL KEYBOARDaTRUMPETaVIOLINaMUSICAL SCOREaRUNNING SHIRT WITH SASHaTENNIS RACQUET AND B
  ALLaSKI AND SKI BOOTaBASKETBALL AND HOOPaCHEQUERED FLAGaSNOWBOARDERaRUNNERaSURFERbPORTS MEDALaTROP
  HYaHORSE RACINGaAMERICAN FOOTBALLaRUGBY FOOTBALLaSWIMMERaWEIGHT LIFTERaGOLFERaRACING MOTORCYCLEhCA
  RaCRICKET BAT AND BALLaVOLLEYBALLaFIELD HOCKEY STICK AND BALLaICE HOCKEY STICK AND PUCKaTABLE TENN
  IS PADDLE AND BALLaSNOW CAPPED MOUNTAINaCAMPINGaBEACH WITH UMBRELLAbUILDING CONSTRUCTIONaHOUSE BUI
  LDINGSaCITYSCAPEaDERELICT HOUSE BUILDINGaCLASSICAL BUILDINGaDESERTg ISLANDaNATIONAL PARKaSTADIUMaH
  OUSE BUILDINGgWITH GARDENaOFFICE BUILDINGaJAPANESE POST OFFICEaEUROPEAN POST OFFICEaHOSPITALaBANKa
  AUTOMATED TELLER MACHINEaHOTELaLOVE HOTELaCONVENIENCE STOREaSCHOOLaDEPARTMENT STOREaFACTORYaIZAKAY
  A LANTERNaJAPANESE CASTLEaEUROPEAN CASTLEaWHITE PENNANTaBLACK PENNANTaWAVING WHITE FLAGhBLACK FLAG
  aROSETTEaBLACK ROSETTEaLABELaBADMINTON RACQUET AND SHUTTLECOCKbOW AND ARROWaAMPHORAaEMOJI MODIFIER
   FITZPATRICK TYPE-1-2zK TYPE-3zK TYPE-4zK TYPE-5zK TYPE-6aRATaMOUSEaOXaWATER BUFFALOaCOWaTIGERaLEO
  PARDaRABBITaCATaDRAGONaCROCODILEaWHALEaSNAILdKEaHORSEaRAMaGOATaSHEEPaMONKEYaROOSTERaCHICKENaDOGaPI
  GaBOARaELEPHANTaOCTOPUSaSPIRAL SHELLaBUGaANTaHONEYBEEaLADY BEETLEaFISHaTROPICAL FISHaBLOWFISHaTURT
  LEaHATCHING CHICKaBABY CHICKaFRONT-FACING BABY CHICKaBIRDaPENGUINaKOALAaPOODLEaDROMEDARY CAMELaBAC
  TRIAN CAMELaDOLPHINaMOUSE FACEaCOW FACEaTIGER FACEaRABBIT FACEaCAT FACEaDRAGON FACEaSPOUTING WHALE
  aHORSE FACEaMONKEY FACEaDOG FACEaPIG FACEaFROG FACEaHAMSTER FACEaWOLF FACEaBEAR FACEaPANDA FACEbIG
   NOSEbAW PRINTSaCHIPMUNKaEYESdbARaNOSEaMOUTHaTONGUEaWHITE UP POINTING BACKHAND INDEXgDOWN POINTING
   BACKHAND INDEXgLEFT POINTING BACKHAND INDEXgRIGHT POINTING BACKHAND INDEXaFISTED HAND SIGNaWAVING
   HAND SIGNaOK HAND SIGNaTHUMBS UP SIGNhDOWN SIGNaCLAPPING HANDS SIGNaOPEN HANDS SIGNaCROWNaWOMANS 
  HATaEYEGLASSESaNECKTIEaT-SHIRTaJEANSaDRESSaKIMONOaBIKINIaWOMANS CLOTHESaPURSEaHANDBAGaPOUCHaMANS S
  HOEaATHLETIC SHOEaHIGH-HEELED SHOEaWOMANS SANDALhBOOTSaFOOTPRINTSaBUST IN SILHOUETTEeS IN SILHOUET
  TEbOYaGIRLaMANaWOMANaFAMILYaMAN AND WOMAN HOLDING HANDSaTWO MEN HOLDING HANDSeWOMEN HOLDING HANDSa
  POLICE OFFICERaWOMAN WITH BUNNY EARSaBRIDE WITH VEILaPERSON WITH BLOND HAIRaMAN WITH GUA PI MAOjTU
  RBANaOLDER MANgWOMANaBABYaCONSTRUCTION WORKERaPRINCESSaJAPANESE OGREjGOBLINaGHOSTaBABY ANGELaEXTRA
  TERRESTRIAL ALIENaALIEN MONSTERaIMPaSKULLaINFORMATION DESK PERSONaGUARDSMANaDANCERaLIPSTICKaNAIL P
  OLISHaFACE MASSAGEaHAIRCUTaBARBER POLEaSYRINGEaPILLaKISS MARKaLOVE LETTERaRINGaGEM STONEaKISSaBOUQ
  UETaCOUPLE WITH HEARTaWEDDINGaBEATING HEARTbROKEN HEARTaTWO HEARTSaSPARKLING HEARTaGROWING HEARTaH
  EART WITH ARROWaBLUE HEARTaGREEN HEARTaYELLOW HEARTaPURPLE HEARTaHEART WITH RIBBONaREVOLVING HEART
  SaHEART DECORATIONaDIAMOND SHAPE WITH A DOT INSIDEaELECTRIC LIGHT BULBaANGER SYMBOLaBOMBaSLEEPING 
  SYMBOLaCOLLISION SYMBOLaSPLASHING SWEAT SYMBOLaDROPLETbASH SYMBOLaPILE OF POOaFLEXED BICEPSaDIZZY 
  SYMBOLaSPEECH BALLOONaTHOUGHT BALLOONaWHITE FLOWERaHUNDRED POINTS SYMBOLaMONEY BAGaCURRENCY EXCHAN
  GEaHEAVY DOLLAR SIGNaCREDIT CARDaBANKNOTE WITH YEN SIGNoDOLLAR SIGNoEURO SIGNoPOUND SIGNaMONEY WIT
  H WINGSaCHART WITH UPWARDS TREND AND YEN SIGNaSEATaPERSONAL COMPUTERaBRIEFCASEaMINIDISCaFLOPPY DIS
  KaOPTICAL DISCaDVDaFILE FOLDERaOPEN FILE FOLDERaPAGE WITH CURLfFACING UPaCALENDARaTEAR-OFF CALENDA
  RaCARD INDEXbHART WITH UPWARDS TRENDlDOWNWARDS TRENDaBAR CHARTaCLIPBOARDaPUSHPINaROUND PUSHPINaPAP
  ERCLIPaSTRAIGHT RULERaTRIANGULAR RULERaBOOKMARK TABSaLEDGERaNOTEBOOKi WITH DECORATIVE COVERaCLOSED
   BOOKaOPEN BOOKaGREEN BOOKaBLUE BOOKaORANGE BOOKaBOOKSaNAME BADGEaSCROLLaMEMOaTELEPHONE RECEIVERaP
  AGERaFAX MACHINEaSATELLITE ANTENNAaPUBLIC ADDRESS LOUDSPEAKERaCHEERING MEGAPHONEaOUTBOX TRAYaINBOX
   TRAYaPACKAGEaE-MAIL SYMBOLaINCOMING ENVELOPEaENVELOPE WITH DOWNWARDS ARROW ABOVEaCLOSED MAILBOX W
  ITH LOWERED FLAGuRAISED FLAGaOPEN MAILBOX WITH RAISED FLAGsLOWERED FLAGaPOSTBOXeAL HORNaNEWSPAPERa
  MOBILE PHONEm WITH RIGHTWARDS ARROW AT LEFTaVIBRATION MODEaMOBILE PHONE OFFaNO MOBILE PHONESaANTEN
  NA WITH BARSaCAMERAg WITH FLASHaVIDEO CAMERAaTELEVISIONaRADIOaVIDEOCASSETTEaFILM PROJECTORaPORTABL
  E STEREObRAYER BEADSaTWISTED RIGHTWARDS ARROWSaCLOCKWISE RIGHTWARDS AND LEFTWARDS OPEN CIRCLE ARRO
  WSzLEFTWARDS OPEN CIRCLE ARROWS WITH CIRCLED ONE OVERLAYkDOWNWARDS AND UPWARDS OPEN CIRCLE ARROWSa
  ANTICLOCKWISE DOWNWARDS AND UPWARDS OPEN CIRCLE ARROWSaLOW BRIGHTNESS SYMBOLaHIGH BRIGHTNESS SYMBO
  LaSPEAKER WITH CANCELLATION STROKEhh WITH ONE SOUND WAVEnTHREE SOUND WAVESaBATTERYaELECTRIC PLUGaL
  EFT-POINTING MAGNIFYING GLASSaRIGHT-POINTING MAGNIFYING GLASSaLOCK WITH INK PENaCLOSED LOCK WITH K
  EYaKEYaLOCKaOPEN LOCKaBELLe WITH CANCELLATION STROKEbOOKMARKaLINK SYMBOLaRADIO BUTTONaBACK WITH LE
  FTWARDS ARROW ABOVEaEND WITH LEFTWARDS ARROW ABOVEaON WITH EXCLAMATION MARK WITH LEFT RIGHT ARROW 
  ABOVEaSOON WITH RIGHTWARDS ARROW ABOVEaTOP WITH UPWARDS ARROW ABOVEaNO ONE UNDER EIGHTEEN SYMBOLaK
  EYCAP TENaINPUT SYMBOL FOR LATIN CAPITAL LETTERSxSMALL LETTERSrNUMBERSrSYMBOLSrLATIN LETTERSaFIREa
  ELECTRIC TORCHaWRENCHaHAMMERaNUT AND BOLTaHOCHOaPISTOLaMICROSCOPEaTELESCOPEaCRYSTAL BALLaSIX POINT
  ED STAR WITH MIDDLE DOTaJAPANESE SYMBOL FOR BEGINNERaTRIDENT EMBLEMaBLACK SQUARE BUTTONaWHITE SQUA
  RE BUTTONaLARGE RED CIRCLEgBLUE CIRCLEgORANGE DIAMONDgBLUE DIAMONDaSMALL ORANGE DIAMONDgBLUE DIAMO
  NDaUP-POINTING RED TRIANGLEaDOWN-POINTING RED TRIANGLEaUP-POINTING SMALL RED TRIANGLEaDOWN-POINTIN
  G SMALL RED TRIANGLEaLOWER RIGHT SHADOWED WHITE CIRCLEaUPPER RIGHT SHADOWED WHITE CIRCLEaCIRCLED C
  ROSS POMMEEbROSS POMMEE WITH HALF-CIRCLE BELOWmaNOTCHED LEFT SEMICIRCLE WITH THREE DOTSiRIGHT SEMI
  CIRCLE WITH THREE DOTSaSYMBOL FOR MARKS CHAPTERaWHITE LATIN CROSSaHEAVY LATIN CROSSaCELTIC CROSSaO
  M SYMBOLaDOVE OF PEACEaKAABAaMOSQUEaSYNAGOGUEaMENORAH WITH NINE BRANCHESaBOWL OF HYGIEIAaCLOCK FAC
  E ONE OCLOCKlTWO OCLOCKmHREE OCLOCKlFOUR OCLOCKmIVE OCLOCKlSIX OCLOCKmEVEN OCLOCKlEIGHT OCLOCKlNIN
  E OCLOCKlTEN OCLOCKlELEVEN OCLOCKlTWELVE OCLOCKlONE-THIRTYlTWO-THIRTYmHREE-THIRTYlFOUR-THIRTYmIVE-
  THIRTYlSIX-THIRTYmEVEN-THIRTYlEIGHT-THIRTYlNINE-THIRTYlTEN-THIRTYlELEVEN-THIRTYlTWELVE-THIRTYaRIGH
  T SPEAKERn WITH ONE SOUND WAVEtTHREE SOUND WAVESaBULLHORNi WITH SOUND WAVESaRINGING BELLaBOOKaCAND
  LEaMANTELPIECE CLOCKaBLACK SKULL AND CROSSBONESaNO PIRACYaHOLEaMAN IN BUSINESS SUIT LEVITATINGaSLE
  UTH OR SPYaDARK SUNGLASSESaSPIDERg WEBaJOYSTICKaMAN DANCINGaLEFT HAND TELEPHONE RECEIVERaTELEPHONE
   RECEIVER WITH PAGEaRIGHT HAND TELEPHONE RECEIVERaWHITE TOUCHTONE TELEPHONEaBLACK TOUCHTONE TELEPH
  ONEaTELEPHONE ON TOP OF MODEMaCLAMSHELL MOBILE PHONEaBACK OF ENVELOPEaSTAMPED ENVELOPEaENVELOPE WI
  TH LIGHTNINGaFLYING ENVELOPEaPEN OVER STAMPED ENVELOPEaLINKED PAPERCLIPSaBLACK PUSHPINaLOWER LEFT 
  PENCILlBALLPOINT PENlFOUNTAIN PENlPAINTBRUSHlCRAYONbEFT WRITING HANDaTURNED OK HAND SIGNaRAISED HA
  ND WITH FINGERS SPLAYEDbEVERSED RAISED HAND WITH FINGERS SPLAYEDjTHUMBS UP SIGNqDOWN SIGNjVICTORY 
  HANDjHAND WITH MIDDLE FINGER EXTENDEDbAISED HAND WITH PART BETWEEN MIDDLE AND RING FINGERSaWHITE D
  OWN POINTING LEFT HAND INDEXaSIDEWAYS WHITE LEFT POINTING INDEXpRIGHT POINTING INDEXjBLACK LEFT PO
  INTING INDEXpRIGHT POINTING INDEXaBLACK LEFT POINTING BACKHAND INDEXgRIGHT POINTING BACKHAND INDEX
  aSIDEWAYS WHITE UP POINTING INDEXpDOWN POINTING INDEXjBLACK UP POINTING INDEXpDOWN POINTING INDEXa
  BLACK UP POINTING BACKHAND INDEXgDOWN POINTING BACKHAND INDEXgHEARTaDESKTOP COMPUTERaKEYBOARD AND 
  MOUSEaTHREE NETWORKED COMPUTERSaPRINTERbOCKET CALCULATORaBLACK HARD SHELL FLOPPY DISKaWHITE HARD S
  HELL FLOPPY DISKaSOFT SHELL FLOPPY DISKaTAPE CARTRIDGEaWIRED KEYBOARDaONE BUTTON MOUSEaTWO BUTTON 
  MOUSEbHREE BUTTON MOUSEbRACKBALLaOLD PERSONAL COMPUTERaHARD DISKaSCREENaPRINTER ICONaFAX ICONaOPTI
  CAL DISC ICONaDOCUMENT WITH TEXTs AND PICTUREoPICTUREaFRAME WITH PICTURElTILESlAN XaBLACK FOLDERaF
  OLDERaOPEN FOLDERaCARD INDEX DIVIDERSfFILE BOXaFILE CABINETaEMPTY NOTEk PAGEnDaNOTEe PAGEhDaEMPTY 
  DOCUMENTgPAGEkSaDOCUMENTaPAGEeSaWASTEBASKETaSPIRAL NOTE PADhCALENDAR PADaDESKTOP WINDOWaMINIMIZEbA
  XIMIZEaOVERLAPaCLOCKWISE RIGHT AND LEFT SEMICIRCLE ARROWSbANCELLATION XaINCREASE FONT SIZE SYMBOLa
  DECREASE FONT SIZE SYMBOLaCOMPRESSIONaOLD KEYaROLLED-UP NEWSPAPERaPAGE WITH CIRCLED TEXTaSTOCK CHA
  RTaDAGGER KNIFEaLIPSaSPEAKING HEAD IN SILHOUETTEaTHREE RAYS ABOVElBELOWlLEFTlRIGHTaLEFT SPEECH BUB
  BLEaRIGHT SPEECH BUBBLEaTWO SPEECH BUBBLESbHREE SPEECH BUBBLESaLEFT THOUGHT BUBBLEaRIGHT THOUGHT B
  UBBLEaLEFT ANGER BUBBLEaRIGHT ANGER BUBBLEaMOOD BUBBLEaLIGHTNING MOOD BUBBLEoaBALLOT BOX WITH BALL
  OThSCRIPT XhBOX WITH SCRIPT XjLD SCRIPT XjX WITH BOLD SCRIPT XaLIGHT CHECK MARKaBALLOT BOX WITH BO
  LD CHECKaWORLD MAPaMOUNT FUJIaTOKYO TOWERaSTATUE OF LIBERTYbILHOUETTE OF JAPANaMOYAIaGRINNING FACE
  n WITH SMILING EYESaFACE WITH TEARS OF JOYaSMILING FACE WITH OPEN MOUTHzUTH AND SMILING EYESzUTH A
  ND COLD SWEATzUTH AND TIGHTLY-CLOSED EYESsHALOtORNSaWINKING FACEaSMILING FACE WITH SMILING EYESaFA
  CE SAVOURING DELICIOUS FOODaRELIEVED FACEaSMILING FACE WITH HEART-SHAPED EYESsSUNGLASSESdRKING FAC
  EaNEUTRAL FACEaEXPRESSIONLESS FACEaUNAMUSED FACEaFACE WITH COLD SWEATaPENSIVE FACEaCONFUSED FACEeO
  UNDED FACEaKISSING FACEaFACE THROWING A KISSaKISSING FACE WITH SMILING EYESsCLOSED EYESaFACE WITH 
  STUCK-OUT TONGUEzE AND WINKING EYEzE AND TIGHTLY-CLOSED EYESaDISAPPOINTED FACEaWORRIED FACEaANGRY 
  FACEaPOUTING FACEaCRYING FACEaPERSEVERING FACEaFACE WITH LOOK OF TRIUMPHaDISAPPOINTED BUT RELIEVED
   FACEaFROWNING FACE WITH OPEN MOUTHaANGUISHED FACEaFEARFUL FACEaWEARY FACEaSLEEPY FACEaTIRED FACEa
  GRIMACING FACEaLOUDLY CRYING FACEaFACE WITH OPEN MOUTHaHUSHED FACEaFACE WITH OPEN MOUTH AND COLD S
  WEATfSCREAMING IN FEARaASTONISHED FACEaFLUSHED FACEaSLEEPING FACEaDIZZY FACEaFACE WITHOUT MOUTHj M
  EDICAL MASKaGRINNING CAT FACE WITH SMILING EYESaCAT FACE WITH TEARS OF JOYaSMILING CAT FACE WITH O
  PEN MOUTHwHEART-SHAPED EYESaCAT FACE WITH WRY SMILEaKISSING CAT FACE WITH CLOSED EYESaPOUTING CAT 
  FACEaCRYING CAT FACEaWEARY CAT FACEaSLIGHTLY FROWNING FACEjSMILING FACEaUPSIDE-DOWN FACEaFACE WITH
   ROLLING EYESkNO GOOD GESTUREkOK GESTUREaPERSON BOWING DEEPLYaSEE-NO-EVIL MONKEYaHEAR-NO-EVIL MONK
  EYaSPEAK-NO-EVIL MONKEYaHAPPY PERSON RAISING ONE HANDaPERSON RAISING BOTH HANDS IN CELEBRATIONhFRO
  WNINGhWITH POUTING FACEmFOLDED HANDSaNORTH WEST POINTING LEAFaSOUTH WEST POINTING LEAFaNORTH EAST 
  POINTING LEAFaSOUTH EAST POINTING LEAFaTURNED NORTH WEST POINTING LEAFhSOUTH WEST POINTING LEAFhNO
  RTH EAST POINTING LEAFhSOUTH EAST POINTING LEAFaNORTH WEST POINTING VINE LEAFaSOUTH WEST POINTING 
  VINE LEAFaNORTH EAST POINTING VINE LEAFaSOUTH EAST POINTING VINE LEAFaHEAVY NORTH WEST POINTING VI
  NE LEAFgSOUTH WEST POINTING VINE LEAFgNORTH EAST POINTING VINE LEAFgSOUTH EAST POINTING VINE LEAFa
  NORTH WEST POINTING BUDaSOUTH WEST POINTING BUDaNORTH EAST POINTING BUDaSOUTH EAST POINTING BUDaHE
  AVY NORTH WEST POINTING BUDgSOUTH WEST POINTING BUDgNORTH EAST POINTING BUDgSOUTH EAST POINTING BU
  DbOLLOW QUILT SQUARE ORNAMENTzENT IN BLACK SQUAREaSOLID QUILT SQUARE ORNAMENTzNT IN BLACK SQUAREaL
  EFTWARDS ROCKETaUPWARDS ROCKETaRIGHTWARDS ROCKETaDOWNWARDS ROCKETaSCRIPT LIGATURE ET ORNAMENTaHEAV
  Y SCRIPT LIGATURE ET ORNAMENTaLIGATURE OPEN ET ORNAMENTaHEAVY LIGATURE OPEN ET ORNAMENTgAMPERSAND 
  ORNAMENTaSWASH AMPERSAND ORNAMENTbANS-SERIF HEAVY DOUBLE TURNED COMMA QUOTATION MARK ORNAMENTyCOMM
  A QUOTATION MARK ORNAMENTrLOW DOUBLE COMMA QUOTATION MARK ORNAMENTaHEAVY INTERROBANG ORNAMENTaSANS
  -SERIF INTERROBANG ORNAMENTaHEAVY SANS-SERIF INTERROBANG ORNAMENTaVERY HEAVY SOLIDUSlREVERSE SOLID
  USaCHECKER BOARDaREVERSE CHECKER BOARDbOCKETaHELICOPTERaSTEAM LOCOMOTIVEaRAILWAY CARaHIGH-SPEED TR
  AINq WITH BULLET NOSEaTRAINaMETROaLIGHT RAILaSTATIONaTRAMe CARaBUSaONCOMING BUSaTROLLEYBUSaBUS STO
  PaMINIBUSaAMBULANCEaFIRE ENGINEaPOLICE CARaONCOMING POLICE CARaTAXIaONCOMING TAXIaAUTOMOBILEaONCOM
  ING AUTOMOBILEaRECREATIONAL VEHICLEaDELIVERY TRUCKaARTICULATED LORRYaTRACTORaMONORAILcUNTAIN RAILW
  AYaSUSPENSION RAILWAYaMOUNTAIN CABLEWAYaAERIAL TRAMWAYaSHIPaROWBOATaSPEEDBOATaHORIZONTAL TRAFFIC L
  IGHTaVERTICAL TRAFFIC LIGHTaCONSTRUCTION SIGNaPOLICE CARS REVOLVING LIGHTaTRIANGULAR FLAG ON POSTa
  DOORaNO ENTRY SIGNaSMOKING SYMBOLaNO SMOKING SYMBOLaPUT LITTER IN ITS PLACE SYMBOLaDO NOT LITTER S
  YMBOLaPOTABLE WATER SYMBOLaNON-POTABLE WATER SYMBOLaBICYCLEaNO BICYCLESaBICYCLISTaMOUNTAIN BICYCLI
  STaPEDESTRIANaNO PEDESTRIANSaCHILDREN CROSSINGaMENS SYMBOLaWOMENS SYMBOLaRESTROOMaBABY SYMBOLaTOIL
  ETaWATER CLOSETaSHOWERaBATHeTUBaPASSPORT CONTROLaCUSTOMSaBAGGAGE CLAIMaLEFT LUGGAGEaTRIANGLE WITH 
  ROUNDED CORNERSaPROHIBITED SIGNaCIRCLED INFORMATION SOURCEaBOYS SYMBOLaGIRLS SYMBOLaCOUCH AND LAMP
  aSLEEPING ACCOMMODATIONbHOPPING BAGSaBELLHOP BELLcDaPLACE OF WORSHIPaOCTAGONAL SIGNaSHOPPING TROLL
  EYbTUPAaPAGODAaHINDU TEMPLEbUTaELEVATOR+1f6dd.aPLAYGROUND SLIDEaWHEELaRING BUOYaHAMMER AND WRENCHa
  SHIELDaOIL DRUMaMOTORWAYaRAILWAY TRACKaMOTOR BOATaUP-POINTING MILITARY AIRPLANEmAIRPLANEmSMALL AIR
  PLANEaSMALL AIRPLANEaNORTHEAST-POINTING AIRPLANEaAIRPLANE DEPARTUREjARRIVING+1f6f0.aSATELLITEaONCO
  MING FIRE ENGINEaDIESEL LOCOMOTIVEaPASSENGER SHIPaSCOOTERaMOTOR SCOOTERaCANOEaSLEDaFLYING SAUCERaS
  KATEBOARDaAUTO RICKSHAWaPICKUP TRUCKaROLLER SKATE+1f700.aALCHEMICAL SYMBOL FOR QUINTESSENCEwAIRwFI
  REwEARTHwWATERwAQUAFORTISzA REGIAzA REGIA-2zA VITAEzA VITAE-2wVINEGARzEGAR-2zEGAR-3wSULFURwPHILOSO
  PHERS SULFURwBLACK SULFURwMERCURY SUBLIMATEzCURY SUBLIMATE-2zCURY SUBLIMATE-3wCINNABARwSALTwNITREw
  VITRIOLzRIOL-2wROCK SALTzK SALT-2wGOLDwSILVERwIRON OREzN ORE-2wCROCUS OF IRONwREGULUS OF IRONwCOPP
  ER OREwIRON-COPPER OREwSUBLIMATE OF COPPERwCROCUS OF COPPERzCUS OF COPPER-2xOPPER ANTIMONIATEwSALT
   OF COPPER ANTIMONIATExUBLIMATE OF SALT OF COPPERwVERDIGRISwTIN OREwLEAD OREwANTIMONY OREwSUBLIMAT
  E OF ANTIMONYxALT OF ANTIMONYxUBLIMATE OF SALT OF ANTIMONYwVINEGAR OF ANTIMONYwREGULUS OF ANTIMONY
  zULUS OF ANTIMONY-2zULUSzULUS-2zULUS-3zULUS-4wALKALIzALI-2wMARCASITEwSAL-AMMONIACwARSENICwREALGARz
  LGAR-2wAURIPIGMENTwBISMUTH OREwTARTARzTAR-2wQUICK LIMEwBORAXzAX-2zAX-3wALUMwOILwSPIRITwTINCTUREwGU
  MwWAXwPOWDERwCALXwTUTTYwCAPUT MORTUUMwSCEPTER OF JOVEwCADUCEUSwTRIDENTwSTARRED TRIDENTwLODESTONEwS
  OAPwURINEwHORSE DUNGwASHESwPOT ASHESwBRICKwPOWDERED BRICKwAMALGAMwSTRATUM SUPER STRATUMzATUM SUPER
   STRATUM-2xUBLIMATIONwPRECIPITATEwDISTILLzSOLVEzSOLVE-2wPURIFYyTREFACTIONwCRUCIBLEzCIBLE-2zCIBLE-3
  zCIBLE-4zCIBLE-5wALEMBICwBATH OF MARYzH OF VAPOURSwRETORTwHOURwNIGHTwDAY-NIGHTwMONTHwHALF DRAMzF O
  UNCE+1f780.aBLACK LEFT-POINTING ISOSCELES RIGHT TRIANGLEgUP-POINTING ISOSCELES RIGHT TRIANGLEgRIGH
  T-POINTING ISOSCELES RIGHT TRIANGLEgDOWN-POINTING ISOSCELES RIGHT TRIANGLEgSLIGHTLY SMALL CIRCLEaM
  EDIUM BOLD WHITE CIRCLEaBOLD WHITE CIRCLEaHEAVY WHITE CIRCLEaVERY HEAVY WHITE CIRCLEaEXTREMELY HEA
  VY WHITE CIRCLEaWHITE CIRCLE CONTAINING BLACK SMALL CIRCLEaROUND TARGETaBLACK TINY SQUAREgSLIGHTLY
   SMALL SQUAREaLIGHT WHITE SQUAREaMEDIUM WHITE SQUAREaBOLD WHITE SQUAREaHEAVY WHITE SQUAREaVERY HEA
  VY WHITE SQUAREaEXTREMELY HEAVY WHITE SQUAREaWHITE SQUARE CONTAINING BLACK VERY SMALL SQUAREzLACK 
  MEDIUM SQUAREaSQUARE TARGETaBLACK TINY DIAMONDgVERY SMALL DIAMONDgMEDIUM SMALL DIAMONDaWHITE DIAMO
  ND CONTAINING BLACK VERY SMALL DIAMONDzBLACK MEDIUM DIAMONDaDIAMOND TARGETaBLACK TINY LOZENGEgVERY
   SMALL LOZENGEgMEDIUM SMALL LOZENGEaWHITE LOZENGE CONTAINING BLACK SMALL LOZENGEaTHIN GREEK CROSSa
  LIGHT GREEK CROSSaMEDIUM GREEK CROSSaBOLD GREEK CROSSaVERY BOLD GREEK CROSSfHEAVY GREEK CROSSaEXTR
  EMELY HEAVY GREEK CROSSaTHIN SALTIREaLIGHT SALTIREaMEDIUM SALTIREaBOLD SALTIREaHEAVY SALTIREaVERY 
  HEAVY SALTIREaEXTREMELY HEAVY SALTIREaLIGHT FIVE SPOKED ASTERISKaMEDIUM FIVE SPOKED ASTERISKaBOLD 
  FIVE SPOKED ASTERISKaHEAVY FIVE SPOKED ASTERISKaVERY HEAVY FIVE SPOKED ASTERISKaEXTREMELY HEAVY FI
  VE SPOKED ASTERISKaLIGHT SIX SPOKED ASTERISKaMEDIUM SIX SPOKED ASTERISKaBOLD SIX SPOKED ASTERISKaH
  EAVY SIX SPOKED ASTERISKaVERY HEAVY SIX SPOKED ASTERISKaEXTREMELY HEAVY SIX SPOKED ASTERISKaLIGHT 
  EIGHT SPOKED ASTERISKaMEDIUM EIGHT SPOKED ASTERISKaBOLD EIGHT SPOKED ASTERISKaHEAVY EIGHT SPOKED A
  STERISKaVERY HEAVY EIGHT SPOKED ASTERISKaLIGHT THREE POINTED BLACK STARaMEDIUM THREE POINTED BLACK
   STARaTHREE POINTED BLACK STARaMEDIUM THREE POINTED PINWHEEL STARaLIGHT FOUR POINTED BLACK STARaME
  DIUM FOUR POINTED BLACK STARaFOUR POINTED BLACK STARaMEDIUM FOUR POINTED PINWHEEL STARaREVERSE LIG
  HT FOUR POINTED PINWHEEL STARaLIGHT FIVE POINTED BLACK STARaHEAVY FIVE POINTED BLACK STARaMEDIUM S
  IX POINTED BLACK STARaHEAVY SIX POINTED BLACK STARaSIX POINTED PINWHEEL STARaMEDIUM EIGHT POINTED 
  BLACK STARaHEAVY EIGHT POINTED BLACK STARaVERY HEAVY EIGHT POINTED BLACK STARaHEAVY EIGHT POINTED 
  PINWHEEL STARaLIGHT TWELVE POINTED BLACK STARaHEAVY TWELVE POINTED BLACK STARvPINWHEEL STARaCIRCLE
  D TRIANGLEaNEGATIVE CIRCLED TRIANGLEaCIRCLED SQUAREaNEGATIVE CIRCLED SQUARE+1f7e0.aLARGE ORANGE CI
  RCLEgYELLOW CIRCLEgGREEN CIRCLEgPURPLE CIRCLEgBROWN CIRCLEgRED SQUAREgBLUE SQUAREgORANGE SQUAREgYE
  LLOW SQUAREgGREEN SQUAREgPURPLE SQUAREgBROWN SQUARE+1f7f0.aHEAVY EQUALS SIGN+1f800.aLEFTWARDS ARRO
  W WITH SMALL TRIANGLE ARROWHEADaUPWARDS ARROW WITH SMALL TRIANGLE ARROWHEADaRIGHTWARDS ARROW WITH 
  SMALL TRIANGLE ARROWHEADaDOWNWARDS ARROW WITH SMALL TRIANGLE ARROWHEADaLEFTWARDS ARROW WITH MEDIUM
   TRIANGLE ARROWHEADaUPWARDS ARROW WITH MEDIUM TRIANGLE ARROWHEADaRIGHTWARDS ARROW WITH MEDIUM TRIA
  NGLE ARROWHEADaDOWNWARDS ARROW WITH MEDIUM TRIANGLE ARROWHEADaLEFTWARDS ARROW WITH LARGE TRIANGLE 
  ARROWHEADaUPWARDS ARROW WITH LARGE TRIANGLE ARROWHEADaRIGHTWARDS ARROW WITH LARGE TRIANGLE ARROWHE
  ADaDOWNWARDS ARROW WITH LARGE TRIANGLE ARROWHEAD+1f810.aLEFTWARDS ARROW WITH SMALL EQUILATERAL ARR
  OWHEADaUPWARDS ARROW WITH SMALL EQUILATERAL ARROWHEADaRIGHTWARDS ARROW WITH SMALL EQUILATERAL ARRO
  WHEADaDOWNWARDS ARROW WITH SMALL EQUILATERAL ARROWHEADaLEFTWARDS ARROW WITH EQUILATERAL ARROWHEADa
  UPWARDS ARROW WITH EQUILATERAL ARROWHEADaRIGHTWARDS ARROW WITH EQUILATERAL ARROWHEADaDOWNWARDS ARR
  OW WITH EQUILATERAL ARROWHEADaHEAVY LEFTWARDS ARROW WITH EQUILATERAL ARROWHEADgUPWARDS ARROW WITH 
  EQUILATERAL ARROWHEADgRIGHTWARDS ARROW WITH EQUILATERAL ARROWHEADgDOWNWARDS ARROW WITH EQUILATERAL
   ARROWHEADgLEFTWARDS ARROW WITH LARGE EQUILATERAL ARROWHEADgUPWARDS ARROW WITH LARGE EQUILATERAL A
  RROWHEADgRIGHTWARDS ARROW WITH LARGE EQUILATERAL ARROWHEADgDOWNWARDS ARROW WITH LARGE EQUILATERAL 
  ARROWHEADaLEFTWARDS TRIANGLE-HEADED ARROW WITH NARROW SHAFTaUPWARDS TRIANGLE-HEADED ARROW WITH NAR
  ROW SHAFTaRIGHTWARDS TRIANGLE-HEADED ARROW WITH NARROW SHAFTaDOWNWARDS TRIANGLE-HEADED ARROW WITH 
  NARROW SHAFTaLEFTWARDS TRIANGLE-HEADED ARROW WITH MEDIUM SHAFTaUPWARDS TRIANGLE-HEADED ARROW WITH 
  MEDIUM SHAFTaRIGHTWARDS TRIANGLE-HEADED ARROW WITH MEDIUM SHAFTaDOWNWARDS TRIANGLE-HEADED ARROW WI
  TH MEDIUM SHAFTaLEFTWARDS TRIANGLE-HEADED ARROW WITH BOLD SHAFTaUPWARDS TRIANGLE-HEADED ARROW WITH
   BOLD SHAFTaRIGHTWARDS TRIANGLE-HEADED ARROW WITH BOLD SHAFTaDOWNWARDS TRIANGLE-HEADED ARROW WITH 
  BOLD SHAFTaLEFTWARDS TRIANGLE-HEADED ARROW WITH HEAVY SHAFTaUPWARDS TRIANGLE-HEADED ARROW WITH HEA
  VY SHAFTaRIGHTWARDS TRIANGLE-HEADED ARROW WITH HEAVY SHAFTaDOWNWARDS TRIANGLE-HEADED ARROW WITH HE
  AVY SHAFTaLEFTWARDS TRIANGLE-HEADED ARROW WITH VERY HEAVY SHAFTaUPWARDS TRIANGLE-HEADED ARROW WITH
   VERY HEAVY SHAFTaRIGHTWARDS TRIANGLE-HEADED ARROW WITH VERY HEAVY SHAFTaDOWNWARDS TRIANGLE-HEADED
   ARROW WITH VERY HEAVY SHAFTaLEFTWARDS FINGER-POST ARROWaUPWARDS FINGER-POST ARROWaRIGHTWARDS FING
  ER-POST ARROWaDOWNWARDS FINGER-POST ARROWaLEFTWARDS SQUARED ARROWaUPWARDS SQUARED ARROWaRIGHTWARDS
   SQUARED ARROWaDOWNWARDS SQUARED ARROWaLEFTWARDS COMPRESSED ARROWaUPWARDS COMPRESSED ARROWaRIGHTWA
  RDS COMPRESSED ARROWaDOWNWARDS COMPRESSED ARROWaLEFTWARDS HEAVY COMPRESSED ARROWaUPWARDS HEAVY COM
  PRESSED ARROWaRIGHTWARDS HEAVY COMPRESSED ARROWaDOWNWARDS HEAVY COMPRESSED ARROWaLEFTWARDS HEAVY A
  RROWaUPWARDS HEAVY ARROWaRIGHTWARDS HEAVY ARROWaDOWNWARDS HEAVY ARROW+1f850.aLEFTWARDS SANS-SERIF 
  ARROWaUPWARDS SANS-SERIF ARROWaRIGHTWARDS SANS-SERIF ARROWaDOWNWARDS SANS-SERIF ARROWaNORTH WEST S
  ANS-SERIF ARROWgEAST SANS-SERIF ARROWaSOUTH EAST SANS-SERIF ARROWgWEST SANS-SERIF ARROWaLEFT RIGHT
   SANS-SERIF ARROWaUP DOWN SANS-SERIF ARROW+1f860.aWIDE-HEADED LEFTWARDS LIGHT BARB ARROWmUPWARDS L
  IGHT BARB ARROWmRIGHTWARDS LIGHT BARB ARROWmDOWNWARDS LIGHT BARB ARROWmNORTH WEST LIGHT BARB ARROW
  sEAST LIGHT BARB ARROWmSOUTH EAST LIGHT BARB ARROWsWEST LIGHT BARB ARROWmLEFTWARDS BARB ARROWmUPWA
  RDS BARB ARROWmRIGHTWARDS BARB ARROWmDOWNWARDS BARB ARROWmNORTH WEST BARB ARROWsEAST BARB ARROWmSO
  UTH EAST BARB ARROWsWEST BARB ARROWmLEFTWARDS MEDIUM BARB ARROWmUPWARDS MEDIUM BARB ARROWmRIGHTWAR
  DS MEDIUM BARB ARROWmDOWNWARDS MEDIUM BARB ARROWmNORTH WEST MEDIUM BARB ARROWsEAST MEDIUM BARB ARR
  OWmSOUTH EAST MEDIUM BARB ARROWsWEST MEDIUM BARB ARROWmLEFTWARDS HEAVY BARB ARROWmUPWARDS HEAVY BA
  RB ARROWmRIGHTWARDS HEAVY BARB ARROWmDOWNWARDS HEAVY BARB ARROWmNORTH WEST HEAVY BARB ARROWsEAST H
  EAVY BARB ARROWmSOUTH EAST HEAVY BARB ARROWsWEST HEAVY BARB ARROWmLEFTWARDS VERY HEAVY BARB ARROWm
  UPWARDS VERY HEAVY BARB ARROWmRIGHTWARDS VERY HEAVY BARB ARROWmDOWNWARDS VERY HEAVY BARB ARROWmNOR
  TH WEST VERY HEAVY BARB ARROWsEAST VERY HEAVY BARB ARROWmSOUTH EAST VERY HEAVY BARB ARROWsWEST VER
  Y HEAVY BARB ARROW+1f890.aLEFTWARDS TRIANGLE ARROWHEADaUPWARDS TRIANGLE ARROWHEADaRIGHTWARDS TRIAN
  GLE ARROWHEADaDOWNWARDS TRIANGLE ARROWHEADaLEFTWARDS WHITE ARROW WITHIN TRIANGLE ARROWHEADaUPWARDS
   WHITE ARROW WITHIN TRIANGLE ARROWHEADaRIGHTWARDS WHITE ARROW WITHIN TRIANGLE ARROWHEADaDOWNWARDS 
  WHITE ARROW WITHIN TRIANGLE ARROWHEADaLEFTWARDS ARROW WITH NOTCHED TAILaUPWARDS ARROW WITH NOTCHED
   TAILaRIGHTWARDS ARROW WITH NOTCHED TAILaDOWNWARDS ARROW WITH NOTCHED TAILaHEAVY ARROW SHAFT WIDTH
   ONEyTWO THIRDSyONE HALFzNE THIRDaLEFTWARDS BOTTOM-SHADED WHITE ARROWaRIGHTWARDS BOTTOM SHADED WHI
  TE ARROWaLEFTWARDS TOP SHADED WHITE ARROWaRIGHTWARDS TOP SHADED WHITE ARROWaLEFTWARDS LEFT-SHADED 
  WHITE ARROWaRIGHTWARDS RIGHT-SHADED WHITE ARROWaLEFTWARDS RIGHT-SHADED WHITE ARROWaRIGHTWARDS LEFT
  -SHADED WHITE ARROWaLEFTWARDS BACK-TILTED SHADOWED WHITE ARROWaRIGHTWARDS BACK-TILTED SHADOWED WHI
  TE ARROWaLEFTWARDS FRONT-TILTED SHADOWED WHITE ARROWaRIGHTWARDS FRONT-TILTED SHADOWED WHITE ARROWa
  WHITE ARROW SHAFT WIDTH ONEyTWO THIRDS+1f8b0.aARROW POINTING UPWARDS THEN NORTH WESTpRIGHTWARDS TH
  EN CURVING SOUTH WEST+1f900.aCIRCLED CROSS FORMEE WITH FOUR DOTSz TWO DOTSuaLEFT HALF CIRCLE WITH 
  FOUR DOTSwTHREE DOTSxWO DOTSwDOTqaDOWNWARD FACING HOOKqNOTCHED HOOKqHOOK WITH DOTqNOTCHED HOOK WIT
  H DOTaPINCHED FINGERSaWHITE HEARTaBROWN HEARTaPINCHING HANDaZIPPER-MOUTH FACEaMONEY-MOUTH FACEaFAC
  E WITH THERMOMETERaNERD FACEaTHINKING FACEaFACE WITH HEAD-BANDAGEaROBOT FACEaHUGGING FACEaSIGN OF 
  THE HORNSaCALL ME HANDaRAISED BACK OF HANDaLEFT-FACING FISTaRIGHT-FACING FISTaHANDSHAKEe WITH INDE
  X AND MIDDLE FINGERS CROSSEDaI LOVE YOU HAND SIGNaFACE WITH COWBOY HATaCLOWN FACEaNAUSEATED FACEaR
  OLLING ON THE FLOOR LAUGHINGaDROOLING FACEaLYING FACEaFACE PALMaSNEEZING FACEaFACE WITH ONE EYEBRO
  W RAISEDaGRINNING FACE WITH STAR EYEStONE LARGE AND ONE SMALL EYEaFACE WITH FINGER COVERING CLOSED
   LIPSaSERIOUS FACE WITH SYMBOLS COVERING MOUTHbMILING FACE WITH SMILING EYES AND HAND COVERING MOU
  THaFACE WITH OPEN MOUTH VOMITINGaSHOCKED FACE WITH EXPLODING HEADaPREGNANT WOMANaBREAST-FEEDINGaPA
  LMS UP TOGETHERaSELFIEaPRINCEaMAN IN TUXEDObOTHER CHRISTMASaSHRUGaPERSON DOING CARTWHEELaJUGGLINGa
  FENCERaMODERN PENTATHLONaWRESTLERSbATER POLOaHANDBALLaDIVING MASKaWILTED FLOWERaDRUM WITH DRUMSTIC
  KSaCLINKING GLASSESaTUMBLER GLASSaSPOONaGOAL NETaRIFLEaFIRST PLACE MEDALaSECOND PLACE MEDALaTHIRD 
  PLACE MEDALaBOXING GLOVEaMARTIAL ARTS UNIFORMaCURLING STONEaLACROSSE STICK AND BALLaSOFTBALLaFLYIN
  G DISCaCROISSANTaAVOCADOaCUCUMBERaBACONaPOTATOaCARROTaBAGUETTE BREADaGREEN SALADaSHALLOW PAN OF FO
  ODbTUFFED FLATBREADaEGGaGLASS OF MILKaPEANUTSaKIWIFRUITaPANCAKESaDUMPLINGaFORTUNE COOKIEaTAKEOUT B
  OXaCHOPSTICKSaBOWL WITH SPOONaCUP WITH STRAWbOCONUTaBROCCOLIaPIEbRETZELaCUT OF MEATaSANDWICHaCANNE
  D FOODaLEAFY GREENaMANGObOON CAKEaBAGELaSMILING FACE WITH SMILING EYES AND THREE HEARTSaYAWNING FA
  CEaSMILING FACE WITH TEARaFACE WITH PARTY HORN AND PARTY HATkUNEVEN EYES AND WAVY MOUTHaOVERHEATED
   FACEaFREEZING FACEaNINJAaDISGUISED FACEaFACE HOLDING BACK TEARSfWITH PLEADING EYESaSARIaLAB COATa
  GOGGLESaHIKING BOOTaFLAT SHOEaCRABaLION FACEaSCORPIONaTURKEYaUNICORN FACEaEAGLEaDUCKaBATaSHARKaOWL
  aFOX FACEaBUTTERFLYaDEERaGORILLAaLIZARDaRHINOCEROSaSHRIMPbQUIDaGIRAFFE FACEaZEBRA FACEaHEDGEHOGaSA
  UROPODaT-REXaCRICKETaKANGAROOaLLAMAaPEACOCKaHIPPOPOTAMUSaPARROTaRACCOONaLOBSTERaMOSQUITObICROBEaBA
  DGERaSWANaMAMMOTHaDODOaSLOTHaOTTERbRANGUTANaSKUNKaFLAMINGOaOYSTERaBEAVERbISONaSEALaGUIDE DOGaPROBI
  NG CANEaEMOJI COMPONENT RED HAIRqCURLY HAIRqBALDqWHITE HAIRaBONEaLEGaFOOTaTOOTHaSUPERHEROfVILLAINb
  AFETY VESTaEAR WITH HEARING AIDaMOTORIZED WHEELCHAIRbANUAL WHEELCHAIRbECHANICAL ARMlLEGaCHEESE WED
  GEbUPCAKEaSALT SHAKERaBEVERAGE BOXaGARLICaONIONaFALAFELaWAFFLEaBUTTERaMATE DRINKaICE CUBEaBUBBLE T
  EAaTROLLaSTANDING PERSONaKNEELING PERSONaDEAF PERSONaFACE WITH MONOCLEaADULTaCHILDaOLDER ADULTaBEA
  RDED PERSONaPERSON WITH HEADSCARFhIN STEAMY ROOMhCLIMBINGhIN LOTUS POSITIONaMAGEaFAIRYaVAMPIREaMER
  PERSONaELFaGENIEaZOMBIEaBRAINaORANGE HEARTaBILLED CAPaSCARFaGLOVESaCOATaSOCKSaRED GIFT ENVELOPEaFI
  RECRACKERaJIGSAW PUZZLE PIECEaTEST TUBEaPETRI DISHaDNA DOUBLE HELIXaCOMPASSaABACUSaFIRE EXTINGUISH
  ERaTOOLBOXaBRICKaMAGNETaLUGGAGEbOTION BOTTLEaSPOOL OF THREADaBALL OF YARNaSAFETY PINaTEDDY BEARaBR
  OOMbASKETaROLL OF PAPERaBAR OF SOAPaSPONGEaRECEIPTaNAZAR AMULETbEUTRAL CHESS KINGoQUEENoROOKoBISHO
  PoKNIGHToPAWNaWHITE CHESS KNIGHT ROTATED FORTY-FIVE DEGREESaBLACK CHESS KNIGHT ROTATED FORTY-FIVE 
  DEGREESaNEUTRAL CHESS KNIGHT ROTATED FORTY-FIVE DEGREESaWHITE CHESS KING ROTATED NINETY DEGREESmQU
  EEN ROTATED NINETY DEGREESmROOK ROTATED NINETY DEGREESmBISHOP ROTATED NINETY DEGREESmKNIGHT ROTATE
  D NINETY DEGREESmPAWN ROTATED NINETY DEGREESaBLACK CHESS KING ROTATED NINETY DEGREESmQUEEN ROTATED
   NINETY DEGREESmROOK ROTATED NINETY DEGREESmBISHOP ROTATED NINETY DEGREESmKNIGHT ROTATED NINETY DE
  GREESmPAWN ROTATED NINETY DEGREESaNEUTRAL CHESS KING ROTATED NINETY DEGREESoQUEEN ROTATED NINETY D
  EGREESoROOK ROTATED NINETY DEGREESoBISHOP ROTATED NINETY DEGREESoKNIGHT ROTATED NINETY DEGREESoPAW
  N ROTATED NINETY DEGREESaWHITE CHESS KNIGHT ROTATED ONE HUNDRED THIRTY-FIVE DEGREESaBLACK CHESS KN
  IGHT ROTATED ONE HUNDRED THIRTY-FIVE DEGREESaNEUTRAL CHESS KNIGHT ROTATED ONE HUNDRED THIRTY-FIVE 
  DEGREESaWHITE CHESS TURNED KINGtQUEENtROOKtBISHOPtKNIGHTtPAWNaBLACK CHESS TURNED KINGtQUEENtROOKtB
  ISHOPtKNIGHTtPAWNaNEUTRAL CHESS TURNED KINGvQUEENvROOKvBISHOPvKNIGHTvPAWNaWHITE CHESS KNIGHT ROTAT
  ED TWO HUNDRED TWENTY-FIVE DEGREESaBLACK CHESS KNIGHT ROTATED TWO HUNDRED TWENTY-FIVE DEGREESaNEUT
  RAL CHESS KNIGHT ROTATED TWO HUNDRED TWENTY-FIVE DEGREESaWHITE CHESS KING ROTATED TWO HUNDRED SEVE
  NTY DEGREESmQUEEN ROTATED TWO HUNDRED SEVENTY DEGREESmROOK ROTATED TWO HUNDRED SEVENTY DEGREESmBIS
  HOP ROTATED TWO HUNDRED SEVENTY DEGREESmKNIGHT ROTATED TWO HUNDRED SEVENTY DEGREESmPAWN ROTATED TW
  O HUNDRED SEVENTY DEGREESaBLACK CHESS KING ROTATED TWO HUNDRED SEVENTY DEGREESmQUEEN ROTATED TWO H
  UNDRED SEVENTY DEGREESmROOK ROTATED TWO HUNDRED SEVENTY DEGREESmBISHOP ROTATED TWO HUNDRED SEVENTY
   DEGREESmKNIGHT ROTATED TWO HUNDRED SEVENTY DEGREESmPAWN ROTATED TWO HUNDRED SEVENTY DEGREESaNEUTR
  AL CHESS KING ROTATED TWO HUNDRED SEVENTY DEGREESoQUEEN ROTATED TWO HUNDRED SEVENTY DEGREESoROOK R
  OTATED TWO HUNDRED SEVENTY DEGREESoBISHOP ROTATED TWO HUNDRED SEVENTY DEGREESoKNIGHT ROTATED TWO H
  UNDRED SEVENTY DEGREESoPAWN ROTATED TWO HUNDRED SEVENTY DEGREESaWHITE CHESS KNIGHT ROTATED THREE H
  UNDRED FIFTEEN DEGREESaBLACK CHESS KNIGHT ROTATED THREE HUNDRED FIFTEEN DEGREESaNEUTRAL CHESS KNIG
  HT ROTATED THREE HUNDRED FIFTEEN DEGREESaWHITE CHESS EQUIHOPPERaBLACK CHESS EQUIHOPPERaNEUTRAL CHE
  SS EQUIHOPPERaWHITE CHESS EQUIHOPPER ROTATED NINETY DEGREESaBLACK CHESS EQUIHOPPER ROTATED NINETY 
  DEGREESaNEUTRAL CHESS EQUIHOPPER ROTATED NINETY DEGREESaWHITE CHESS KNIGHT-QUEENtROOKtBISHOPaBLACK
   CHESS KNIGHT-QUEENtROOKtBISHOP+1fa60.aXIANGQI RED GENERALmMANDARINmELEPHANTmHORSEmCHARIOTnANNONmS
  OLDIERiBLACK GENERALoMANDARINoELEPHANToHORSEoCHARIOTpANNONoSOLDIER+1fa70.aBALLET SHOESaONE-PIECE S
  WIMSUITaBRIEFSaSHORTSaTHONG SANDAL+1fa78.aDROP OF BLOODaADHESIVE BANDAGEaSTETHOSCOPEaX-RAYaCRUTCH+
  1fa80.aYO-YOaKITEaPARACHUTEaBOOMERANGaMAGIC WANDaPINATAaNESTING DOLLS+1fa90.aRINGED PLANETaCHAIRaR
  AZORaAXEaDIYA LAMPaBANJOaMILITARY HELMETaACCORDIONaLONG DRUMaCOINbARPENTRY SAWaSCREWDRIVERaLADDERa
  HOOKaMIRRORaWINDOWaPLUNGERaSEWING NEEDLEaKNOTaBUCKETaMOUSE TRAPaTOOTHBRUSHaHEADSTONEaPLACARDaROCKa
  MIRROR BALLaIDENTIFICATION CARDaLOW BATTERYaHAMSA+1fab0.aFLYaWORMaBEETLEaCOCKROACHaPOTTED PLANTaWO
  ODaFEATHERaLOTUSaCORALaEMPTY NESTaNEST WITH EGGS+1fac0.aANATOMICAL HEARTaLUNGSaPEOPLE HUGGINGbREGN
  ANT MANjPERSONbERSON WITH CROWN+1fad0.aBLUEBERRIESbELL PEPPERaOLIVEaFLATBREADaTAMALEaFONDUEaTEAPOT
  aPOURING LIQUIDaBEANSaJAR+1fae0.aMELTING FACEaSALUTING FACEaFACE WITH OPEN EYES AND HAND OVER MOUT
  HkPEEKING EYEkDIAGONAL MOUTHaDOTTED LINE FACEaBITING LIPbUBBLES+1faf0.aHAND WITH INDEX FINGER AND 
  THUMB CROSSEDaRIGHTWARDS HANDaLEFTWARDS HANDaPALM DOWN HANDfUP HANDaINDEX POINTING AT THE VIEWERaH
  EART HANDS+1fb00.aBLOCK SEXTANT-1o2o12o3o13o23o123o4o14o24o124o34o134o234o1234o5o15o25o125o35o235o
  1235o45o145o245o1245o345o1345o2345o12345o6o16o26o126o36o136o236o1236o46o146p246o346o1346o2346o1234
  6o56o156o256o1256o356o1356o2356o12356o456o1456o2456o12456o3456o13456o23456aLOWER LEFT BLOCK DIAGON
  AL LOWER MIDDLE LEFT TO LOWER CENTREz LOWER MIDDLE LEFT TO LOWER RIGHTz UPPER MIDDLE LEFT TO LOWER
   CENTREz UPPER MIDDLE LEFT TO LOWER RIGHTz UPPER LEFT TO LOWER CENTREgRIGHT BLOCK DIAGONAL UPPER M
  IDDLE LEFT TO UPPER CENTREzL UPPER MIDDLE LEFT TO UPPER RIGHTzL LOWER MIDDLE LEFT TO UPPER CENTREz
  L LOWER MIDDLE LEFT TO UPPER RIGHTzL LOWER LEFT TO UPPER CENTREzL LOWER MIDDLE LEFT TO UPPER MIDDL
  E RIGHTzL LOWER CENTRE TO LOWER MIDDLE RIGHTzL LOWER LEFT TO LOWER MIDDLE RIGHTzL LOWER CENTRE TO 
  UPPER MIDDLE RIGHTzL LOWER LEFT TO UPPER MIDDLE RIGHTzL LOWER CENTRE TO UPPER RIGHTgLEFT BLOCK DIA
  GONAL UPPER CENTRE TO UPPER MIDDLE RIGHTz UPPER LEFT TO UPPER MIDDLE RIGHTz UPPER CENTRE TO LOWER 
  MIDDLE RIGHTz UPPER LEFT TO LOWER MIDDLE RIGHTz UPPER CENTRE TO LOWER RIGHTz UPPER MIDDLE LEFT TO 
  LOWER MIDDLE RIGHTaUPPER RIGHT BLOCK DIAGONAL LOWER MIDDLE LEFT TO LOWER CENTREzL LOWER MIDDLE LEF
  T TO LOWER RIGHTzL UPPER MIDDLE LEFT TO LOWER CENTREzL UPPER MIDDLE LEFT TO LOWER RIGHTzL UPPER LE
  FT TO LOWER CENTREgLEFT BLOCK DIAGONAL UPPER MIDDLE LEFT TO UPPER CENTREz UPPER MIDDLE LEFT TO UPP
  ER RIGHTz LOWER MIDDLE LEFT TO UPPER CENTREz LOWER MIDDLE LEFT TO UPPER RIGHTz LOWER LEFT TO UPPER
   CENTREz LOWER MIDDLE LEFT TO UPPER MIDDLE RIGHTz LOWER CENTRE TO LOWER MIDDLE RIGHTz LOWER LEFT T
  O LOWER MIDDLE RIGHTz LOWER CENTRE TO UPPER MIDDLE RIGHTz LOWER LEFT TO UPPER MIDDLE RIGHTz LOWER 
  CENTRE TO UPPER RIGHTgRIGHT BLOCK DIAGONAL UPPER CENTRE TO UPPER MIDDLE RIGHTzL UPPER LEFT TO UPPE
  R MIDDLE RIGHTzL UPPER CENTRE TO LOWER MIDDLE RIGHTzL UPPER LEFT TO LOWER MIDDLE RIGHTzL UPPER CEN
  TRE TO LOWER RIGHTzL UPPER MIDDLE LEFT TO LOWER MIDDLE RIGHTgAND RIGHT AND LOWER TRIANGULAR THREE 
  QUARTERS BLOCKaLEFT AND LOWER AND RIGHT TRIANGULAR THREE QUARTERS BLOCKaUPPER AND LEFT AND LOWER T
  RIANGULAR THREE QUARTERS BLOCKaLEFT AND UPPER AND RIGHT TRIANGULAR THREE QUARTERS BLOCKfTRIANGULAR
   ONE QUARTER BLOCKaUPPER TRIANGULAR ONE QUARTER BLOCKaRIGHT TRIANGULAR ONE QUARTER BLOCKaLOWER TRI
  ANGULAR ONE QUARTER BLOCKaVERTICAL ONE EIGHTH BLOCK-2z-3z-4z-5z-6z-7aHORIZONTAL ONE EIGHTH BLOCK-2
  zCK-3zCK-4zCK-5zCK-6zCK-7aLEFT AND LOWER ONE EIGHTH BLOCKjUPPER ONE EIGHTH BLOCKaRIGHT AND UPPER O
  NE EIGHTH BLOCKkLOWER ONE EIGHTH BLOCKaUPPER AND LOWER ONE EIGHTH BLOCKaHORIZONTAL ONE EIGHTH BLOC
  K-1358aUPPER ONE QUARTER BLOCKgTHREE EIGHTHS BLOCKgFIVE EIGHTHS BLOCKgTHREE QUARTERS BLOCKgSEVEN E
  IGHTHS BLOCKaRIGHT ONE QUARTER BLOCKgTHREE EIGHTHS BLOCKgFIVE EIGHTHS BLOCKgTHREE QUARTERS BLOCKgS
  EVEN EIGHTHS BLOCKaLEFT HALF MEDIUM SHADEaRIGHT HALF MEDIUM SHADEaUPPER HALF MEDIUM SHADEaLOWER HA
  LF MEDIUM SHADEaINVERSE MEDIUM SHADEaUPPER HALF BLOCK AND LOWER HALF INVERSE MEDIUM SHADElINVERSE 
  MEDIUM SHADE AND LOWER HALF BLOCK+1fb94.aLEFT HALF INVERSE MEDIUM SHADE AND RIGHT HALF BLOCKaCHECK
  ER BOARD FILLaINVERSE CHECKER BOARD FILLaHEAVY HORIZONTAL FILLaUPPER LEFT TO LOWER RIGHT FILLgRIGH
  T TO LOWER LEFT FILLgAND LOWER TRIANGULAR HALF BLOCKaLEFT AND RIGHT TRIANGULAR HALF BLOCKaUPPER LE
  FT TRIANGULAR MEDIUM SHADEgRIGHT TRIANGULAR MEDIUM SHADEaLOWER RIGHT TRIANGULAR MEDIUM SHADEgLEFT 
  TRIANGULAR MEDIUM SHADEaBOX DRAWINGS LIGHT DIAGONAL UPPER CENTRE TO MIDDLE LEFTzAL UPPER CENTRE TO
   MIDDLE RIGHTzAL MIDDLE LEFT TO LOWER CENTREzAL MIDDLE RIGHT TO LOWER CENTREzAL UPPER CENTRE TO MI
  DDLE LEFT TO LOWER CENTREzAL UPPER CENTRE TO MIDDLE RIGHT TO LOWER CENTREzAL MIDDLE LEFT TO LOWER 
  CENTRE TO MIDDLE RIGHTzAL MIDDLE LEFT TO UPPER CENTRE TO MIDDLE RIGHTzAL UPPER CENTRE TO MIDDLE LE
  FT AND MIDDLE RIGHT TO LOWER CENTREzAL UPPER CENTRE TO MIDDLE RIGHT AND MIDDLE LEFT TO LOWER CENTR
  EzAL UPPER CENTRE TO MIDDLE RIGHT TO LOWER CENTRE TO MIDDLE LEFTzAL UPPER CENTRE TO MIDDLE LEFT TO
   LOWER CENTRE TO MIDDLE RIGHTzAL MIDDLE LEFT TO UPPER CENTRE TO MIDDLE RIGHT TO LOWER CENTREzAL MI
  DDLE RIGHT TO UPPER CENTRE TO MIDDLE LEFT TO LOWER CENTREzAL DIAMONDtHORIZONTAL WITH VERTICAL STRO
  KEaARROWHEAD-SHAPED POINTERaINVERSE CHECK MARKaLEFT HALF RUNNING MANaRIGHT HALF RUNNING MANaINVERS
  E DOWNWARDS ARROW WITH TIP LEFTWARDSaLEFTWARDS ARROW AND UPPER AND LOWER ONE EIGHTH BLOCKaRIGHTWAR
  DS ARROW AND UPPER AND LOWER ONE EIGHTH BLOCKaDOWNWARDS ARROW AND RIGHT ONE EIGHTH BLOCKaUPWARDS A
  RROW AND RIGHT ONE EIGHTH BLOCKaLEFT HALF FOLDERaRIGHT HALF FOLDERaVOIDED GREEK CROSSaRIGHT OPEN S
  QUARED DOTaNEGATIVE DIAGONAL CROSSsMIDDLE RIGHT TO LOWER CENTREsDIAMONDaWHITE HEAVY SALTIRE WITH R
  OUNDED CORNERSaLEFT THIRD WHITE RIGHT POINTING INDEXaMIDDLE THIRD WHITE RIGHT POINTING INDEXaRIGHT
   THIRD WHITE RIGHT POINTING INDEXaNEGATIVE SQUARED QUESTION MARKaSTICK FIGUREm WITH ARMS RAISEDnLE
  ANING LEFTvRIGHTnWITH DRESSaWHITE UP-POINTING CHEVRON+1fbf0.aSEGMENTED DIGIT ZEROqONEqTWOrHREEqFOU
  RrIVEqSIXrEVENqEIGHTqNINE+e0001.aLANGUAGE TAG+e0020.aTAG SPACEeEXCLAMATION MARKeQUOTATION MARKeNUM
  BER SIGNeDOLLAR SIGNePERCENT SIGNeAMPERSANDfPOSTROPHEeLEFT PARENTHESISeRIGHT PARENTHESISeASTERISKe
  PLUS SIGNeCOMMAeHYPHEN-MINUSeFULL STOPeSOLIDUSeDIGIT ZEROkONEkTWOlHREEkFOURlIVEkSIXlEVENkEIGHTkNIN
  EeCOLONeSEMICOLONeLESS-THAN SIGNeEQUALS SIGNeGREATER-THAN SIGNeQUESTION MARKeCOMMERCIAL ATeLATIN C
  APITAL LETTER AzBzCzDzEzFzGzHzIzJzKzLzMzNzOzPzQzRzSzTzUzVzWzXzYzZfEFT SQUARE BRACKETeREVERSE SOLID
  USfIGHT SQUARE BRACKETeCIRCUMFLEX ACCENTeLOW LINEeGRAVE ACCENTeLATIN SMALL LETTER AxBxCxDxExFxGxHx
  IxJxKxLxMxNxOxPxQxRxSxTxUxVxWxXxYxZfEFT CURLY BRACKETeVERTICAL LINEeRIGHT CURLY BRACKETeTILDEaCANC
  EL TAG+e0100.aVARIATION SELECTOR-17u8u9t20u1u2u3u4u5u6u7u8u9t30u1u2u3u4u5u6u7u8u9t40u1u2u3u4u5u6u7
  u8u9t50u1u2u3u4u5u6u7u8u9t60u1u2u3u4u5u6u7u8u9t70u1u2u3u4u5u6u7u8u9t80u1u2u3u4u5u6u7u8u9t90u1u2u3u
  4u5u6u7u8u9t100v1v2v3v4v5v6v7v8v9u10v1v2v3v4v5v6v7v8v9u20v1v2v3v4v5v6v7v8v9u30v1v2v3v4v5v6v7v8v9u4
  0v1v2v3v4v5v6v7v8v9u50v1v2v3v4v5v6v7v8v9u60v1v2v3v4v5v6v7v8v9u70v1v2v3v4v5v6v7v8v9u80v1v2v3v4v5v6v
  7v8v9u90v1v2v3v4v5v6v7v8v9t200v1v2v3v4v5v6v7v8v9u10v1v2v3v4v5v6v7v8v9u20v1v2v3v4v5v6v7v8v9u30v1v2v
  3v4v5v6v7v8v9u40v1v2v3v4v5v6v7v8v9u50v1v2v3v4v5v6"

/-- Further names of characters. -/
def byNameText : String := "
  NULL:0;NUL:0;START OF HEADING:1;SOH:1;START OF TEXT:2;STX:2;END OF TEXT:3;ETX:3;
  END OF TRANSMISSION:4;EOT:4;ENQUIRY:5;ENQ:5;ACKNOWLEDGE:6;ACK:6;ALERT:7;BEL:7;BACKSPACE:8;BS:8;
  CHARACTER TABULATION:9;HORIZONTAL TABULATION:9;HT:9;TAB:9;LINE FEED:a;NEW LINE:a;END OF LINE:a;
  LF:a;NL:a;EOL:a;LINE TABULATION:b;VERTICAL TABULATION:b;VT:b;FORM FEED:c;FF:c;CARRIAGE RETURN:d;
  CR:d;SHIFT OUT:e;LOCKING-SHIFT ONE:e;SO:e;SHIFT IN:f;LOCKING-SHIFT ZERO:f;SI:f;
  DATA LINK ESCAPE:10;DLE:10;DEVICE CONTROL ONE:11;DC1:11;DEVICE CONTROL TWO:12;DC2:12;
  DEVICE CONTROL THREE:13;DC3:13;DEVICE CONTROL FOUR:14;DC4:14;NEGATIVE ACKNOWLEDGE:15;NAK:15;
  SYNCHRONOUS IDLE:16;SYN:16;END OF TRANSMISSION BLOCK:17;ETB:17;CANCEL:18;CAN:18;END OF MEDIUM:19;
  EOM:19;SUBSTITUTE:1a;SUB:1a;ESCAPE:1b;ESC:1b;INFORMATION SEPARATOR FOUR:1c;FILE SEPARATOR:1c;
  FS:1c;INFORMATION SEPARATOR THREE:1d;GROUP SEPARATOR:1d;GS:1d;INFORMATION SEPARATOR TWO:1e;
  RECORD SEPARATOR:1e;RS:1e;INFORMATION SEPARATOR ONE:1f;UNIT SEPARATOR:1f;US:1f;SP:20;DELETE:7f;
  DEL:7f;PADDING CHARACTER:80;PAD:80;HIGH OCTET PRESET:81;HOP:81;BREAK PERMITTED HERE:82;BPH:82;
  NO BREAK HERE:83;NBH:83;INDEX:84;IND:84;NEXT LINE:85;NEL:85;START OF SELECTED AREA:86;SSA:86;
  END OF SELECTED AREA:87;ESA:87;CHARACTER TABULATION SET:88;HORIZONTAL TABULATION SET:88;HTS:88;
  CHARACTER TABULATION WITH JUSTIFICATION:89;HORIZONTAL TABULATION WITH JUSTIFICATION:89;HTJ:89;
  LINE TABULATION SET:8a;VERTICAL TABULATION SET:8a;VTS:8a;PARTIAL LINE FORWARD:8b;
  PARTIAL LINE DOWN:8b;PLD:8b;PARTIAL LINE BACKWARD:8c;PARTIAL LINE UP:8c;PLU:8c;
  REVERSE LINE FEED:8d;REVERSE INDEX:8d;RI:8d;SINGLE SHIFT TWO:8e;SINGLE-SHIFT-2:8e;SS2:8e;
  SINGLE SHIFT THREE:8f;SINGLE-SHIFT-3:8f;SS3:8f;DEVICE CONTROL STRING:90;DCS:90;PRIVATE USE ONE:91;
  PRIVATE USE-1:91;PU1:91;PRIVATE USE TWO:92;PRIVATE USE-2:92;PU2:92;SET TRANSMIT STATE:93;STS:93;
  CANCEL CHARACTER:94;CCH:94;MESSAGE WAITING:95;MW:95;START OF GUARDED AREA:96;
  START OF PROTECTED AREA:96;SPA:96;END OF GUARDED AREA:97;END OF PROTECTED AREA:97;EPA:97;
  START OF STRING:98;SOS:98;SINGLE GRAPHIC CHARACTER INTRODUCER:99;SGC:99;
  SINGLE CHARACTER INTRODUCER:9a;SCI:9a;CONTROL SEQUENCE INTRODUCER:9b;CSI:9b;STRING TERMINATOR:9c;
  ST:9c;OPERATING SYSTEM COMMAND:9d;OSC:9d;PRIVACY MESSAGE:9e;PM:9e;APPLICATION PROGRAM COMMAND:9f;
  APC:9f;NBSP:a0;SHY:ad;LATIN CAPITAL LETTER GHA:1a2;LATIN SMALL LETTER GHA:1a3;CGJ:34f;ALM:61c;
  SYRIAC SUBLINEAR COLON SKEWED LEFT:709;KANNADA LETTER LLLA:cde;LAO LETTER FO FON:e9d;
  LAO LETTER FO FAY:e9f;LAO LETTER RO:ea3;LAO LETTER LO:ea5;HANGUL JONGSEONG YESIEUNG-KIYEOK:11ec;
  HANGUL JONGSEONG YESIEUNG-SSANGKIYEOK:11ed;HANGUL JONGSEONG SSANGYESIEUNG:11ee;
  HANGUL JONGSEONG YESIEUNG-KHIEUKH:11ef;FVS1:180b;FVS2:180c;FVS3:180d;MVS:180e;FVS4:180f;ZWSP:200b;
  ZWNJ:200c;ZWJ:200d;LRM:200e;RLM:200f;LRE:202a;RLE:202b;PDF:202c;LRO:202d;RLO:202e;NNBSP:202f;
  MMSP:205f;WJ:2060;LRI:2066;RLI:2067;FSI:2068;PDI:2069;WEIERSTRASS ELLIPTIC FUNCTION:2118;
  MICR ON US SYMBOL:2448;MICR DASH SYMBOL:2449;
  LEFTWARDS TRIANGLE-HEADED ARROW WITH DOUBLE VERTICAL STROKE:2b7a;
  RIGHTWARDS TRIANGLE-HEADED ARROW WITH DOUBLE VERTICAL STROKE:2b7c;YI SYLLABLE ITERATION MARK:a015;
  MYANMAR LETTER KHAMTI LLA:aa6e;PRESENTATION FORM FOR VERTICAL RIGHT WHITE LENTICULAR BRACKET:fe18;
  VS1:fe00;VS2:fe01;VS3:fe02;VS4:fe03;VS5:fe04;VS6:fe05;VS7:fe06;VS8:fe07;VS9:fe08;VS10:fe09;
  VS11:fe0a;VS12:fe0b;VS13:fe0c;VS14:fe0d;VS15:fe0e;VS16:fe0f;BYTE ORDER MARK:feff;BOM:feff;
  ZWNBSP:feff;CUNEIFORM SIGN NU11 TENU:122d4;CUNEIFORM SIGN NU11 OVER NU11 BUR OVER BUR:122d5;
  MEDEFAIDRIN CAPITAL LETTER H:16e56;MEDEFAIDRIN CAPITAL LETTER NG:16e57;
  MEDEFAIDRIN SMALL LETTER H:16e76;MEDEFAIDRIN SMALL LETTER NG:16e77;
  BYZANTINE MUSICAL SYMBOL FTHORA SKLIRON CHROMA VASIS:1d0c5;HENTAIGANA LETTER E-1:1b001;VS17:e0100;
  VS18:e0101;VS19:e0102;VS20:e0103;VS21:e0104;VS22:e0105;VS23:e0106;VS24:e0107;VS25:e0108;
  VS26:e0109;VS27:e010a;VS28:e010b;VS29:e010c;VS30:e010d;VS31:e010e;VS32:e010f;VS33:e0110;
  VS34:e0111;VS35:e0112;VS36:e0113;VS37:e0114;VS38:e0115;VS39:e0116;VS40:e0117;VS41:e0118;
  VS42:e0119;VS43:e011a;VS44:e011b;VS45:e011c;VS46:e011d;VS47:e011e;VS48:e011f;VS49:e0120;
  VS50:e0121;VS51:e0122;VS52:e0123;VS53:e0124;VS54:e0125;VS55:e0126;VS56:e0127;VS57:e0128;
  VS58:e0129;VS59:e012a;VS60:e012b;VS61:e012c;VS62:e012d;VS63:e012e;VS64:e012f;VS65:e0130;
  VS66:e0131;VS67:e0132;VS68:e0133;VS69:e0134;VS70:e0135;VS71:e0136;VS72:e0137;VS73:e0138;
  VS74:e0139;VS75:e013a;VS76:e013b;VS77:e013c;VS78:e013d;VS79:e013e;VS80:e013f;VS81:e0140;
  VS82:e0141;VS83:e0142;VS84:e0143;VS85:e0144;VS86:e0145;VS87:e0146;VS88:e0147;VS89:e0148;
  VS90:e0149;VS91:e014a;VS92:e014b;VS93:e014c;VS94:e014d;VS95:e014e;VS96:e014f;VS97:e0150;
  VS98:e0151;VS99:e0152;VS100:e0153;VS101:e0154;VS102:e0155;VS103:e0156;VS104:e0157;VS105:e0158;
  VS106:e0159;VS107:e015a;VS108:e015b;VS109:e015c;VS110:e015d;VS111:e015e;VS112:e015f;VS113:e0160;
  VS114:e0161;VS115:e0162;VS116:e0163;VS117:e0164;VS118:e0165;VS119:e0166;VS120:e0167;VS121:e0168;
  VS122:e0169;VS123:e016a;VS124:e016b;VS125:e016c;VS126:e016d;VS127:e016e;VS128:e016f;VS129:e0170;
  VS130:e0171;VS131:e0172;VS132:e0173;VS133:e0174;VS134:e0175;VS135:e0176;VS136:e0177;VS137:e0178;
  VS138:e0179;VS139:e017a;VS140:e017b;VS141:e017c;VS142:e017d;VS143:e017e;VS144:e017f;VS145:e0180;
  VS146:e0181;VS147:e0182;VS148:e0183;VS149:e0184;VS150:e0185;VS151:e0186;VS152:e0187;VS153:e0188;
  VS154:e0189;VS155:e018a;VS156:e018b;VS157:e018c;VS158:e018d;VS159:e018e;VS160:e018f;VS161:e0190;
  VS162:e0191;VS163:e0192;VS164:e0193;VS165:e0194;VS166:e0195;VS167:e0196;VS168:e0197;VS169:e0198;
  VS170:e0199;VS171:e019a;VS172:e019b;VS173:e019c;VS174:e019d;VS175:e019e;VS176:e019f;VS177:e01a0;
  VS178:e01a1;VS179:e01a2;VS180:e01a3;VS181:e01a4;VS182:e01a5;VS183:e01a6;VS184:e01a7;VS185:e01a8;
  VS186:e01a9;VS187:e01aa;VS188:e01ab;VS189:e01ac;VS190:e01ad;VS191:e01ae;VS192:e01af;VS193:e01b0;
  VS194:e01b1;VS195:e01b2;VS196:e01b3;VS197:e01b4;VS198:e01b5;VS199:e01b6;VS200:e01b7;VS201:e01b8;
  VS202:e01b9;VS203:e01ba;VS204:e01bb;VS205:e01bc;VS206:e01bd;VS207:e01be;VS208:e01bf;VS209:e01c0;
  VS210:e01c1;VS211:e01c2;VS212:e01c3;VS213:e01c4;VS214:e01c5;VS215:e01c6;VS216:e01c7;VS217:e01c8;
  VS218:e01c9;VS219:e01ca;VS220:e01cb;VS221:e01cc;VS222:e01cd;VS223:e01ce;VS224:e01cf;VS225:e01d0;
  VS226:e01d1;VS227:e01d2;VS228:e01d3;VS229:e01d4;VS230:e01d5;VS231:e01d6;VS232:e01d7;VS233:e01d8;
  VS234:e01d9;VS235:e01da;VS236:e01db;VS237:e01dc;VS238:e01dd;VS239:e01de;VS240:e01df;VS241:e01e0;
  VS242:e01e1;VS243:e01e2;VS244:e01e3;VS245:e01e4;VS246:e01e5;VS247:e01e6;VS248:e01e7;VS249:e01e8;
  VS250:e01e9;VS251:e01ea;VS252:e01eb;VS253:e01ec;VS254:e01ed;VS255:e01ee;VS256:e01ef;"

/-- Families of characters that are named by their code point. -/
def numbered : List (String × Nat × Nat) := [
  ("CJK UNIFIED IDEOGRAPH-", 0x3400, 0x4dbf),
  ("CJK UNIFIED IDEOGRAPH-", 0x4e00, 0x9fff),
  ("CJK UNIFIED IDEOGRAPH-", 0x20000, 0x2a6df),
  ("CJK UNIFIED IDEOGRAPH-", 0x2a700, 0x2b738),
  ("CJK UNIFIED IDEOGRAPH-", 0x2b740, 0x2b81d),
  ("CJK UNIFIED IDEOGRAPH-", 0x2b820, 0x2cea1),
  ("CJK UNIFIED IDEOGRAPH-", 0x2ceb0, 0x2ebe0),
  ("CJK UNIFIED IDEOGRAPH-", 0x30000, 0x3134a),
  ("CJK COMPATIBILITY IDEOGRAPH-", 0xf900, 0xfa6d),
  ("CJK COMPATIBILITY IDEOGRAPH-", 0xfa70, 0xfad9),
  ("CJK COMPATIBILITY IDEOGRAPH-", 0x2f800, 0x2fa1d),
  ("KHITAN SMALL SCRIPT CHARACTER-", 0x18b00, 0x18cd5),
  ("NUSHU CHARACTER-", 0x1b170, 0x1b2fb)]

/-- The text without its line ends and the two blanks behind each. -/
def unfold : List Char → List Char
  | '\n' :: _ :: _ :: rest => unfold rest
  | c :: rest => c :: unfold rest
  | [] => []

def hexDigit? (c : Char) : Option Nat :=
  if c.isDigit then some (c.toNat - '0'.toNat)
  else if 'A' ≤ c && c ≤ 'F' then some (c.toNat - 'A'.toNat + 10)
  else if 'a' ≤ c && c ≤ 'f' then some (c.toNat - 'a'.toNat + 10)
  else none

def hexValue (cs : List Char) : Nat := cs.foldl (fun n c => 16 * n + (hexDigit? c).getD 0) 0

/-- The code point of a name in the run that begins with the next code point; `last` is the name
before. -/
def findInRun (wanted : List Char) : (fuel : Nat) → (next : Nat) → (last : List Char) →
    List Char → Option Nat
  | 0, _, _, _ => none
  | _, _, _, [] => none
  | fuel + 1, next, last, mark :: rest =>
    if mark == '+' then
      let digits := rest.takeWhile (· != '.')
      findInRun wanted fuel (hexValue digits) last (rest.drop (digits.length + 1))
    else
      let own := rest.takeWhile fun c => !c.isLower && c != '+'
      let name := last.take (mark.toNat - 'a'.toNat) ++ own
      if name == wanted then some next
      else findInRun wanted fuel (next + 1) name (rest.drop own.length)

def plain? (name : List Char) : Option Nat :=
  let cs := unfold nameText.toList
  findInRun name cs.length 0 [] cs

def further? (name : String) : Option Nat :=
  ((String.ofList (unfold byNameText.toList)).splitOn ";").findSome? fun piece =>
    match piece.splitOn ":" with
    | [other, code] => if other == name then some (hexValue code.toList) else none
    | _ => none

/-- A code point of four digits or more without needless zeros. -/
def codePoint? (cs : List Char) : Option Nat :=
  if cs.length < 4 || 6 < cs.length || (4 < cs.length && cs.head? == some '0') then none
  else if cs.all fun c => (hexDigit? c).isSome && !c.isLower then some (hexValue cs) else none

/-- Ideographs may spell their code point with a zero in front. -/
def numbered? (name : List Char) : Option Nat :=
  numbered.findSome? fun (family, first, last) => do
    let digits ← dropStart? family.toList name
    let digits := if digits.length == 5 then digits.dropWhile (· == '0') else digits
    let n ← codePoint? (List.replicate (4 - digits.length) '0' ++ digits)
    if first ≤ n && n ≤ last then some n else none

def leads : List String := [
  "G", "GG", "N", "D", "DD", "R", "M", "B", "BB", "S", "SS", "", "J", "JJ", "C", "K", "T", "P", "H"]

def vowels : List String := [
  "A", "AE", "YA", "YAE", "EO", "E", "YEO", "YE", "O", "WA", "WAE", "OE", "YO", "U", "WEO", "WE",
  "WI", "YU", "EU", "YI", "I"]

def tails : List String := [
  "", "G", "GG", "GS", "N", "NJ", "NH", "D", "L", "LG", "LM", "LB", "LS", "LT", "LP", "LH", "M",
  "B", "BS", "S", "SS", "NG", "J", "C", "K", "T", "P", "H"]

/-- The longest of some parts that begins a text, by its place, and the rest. -/
def longest? (parts : List String) (cs : List Char) : Option (Nat × List Char) :=
  let fits := parts.zipIdx.filterMap fun (p, i) => (dropStart? p.toList cs).map (i, ·)
  fits.foldl (fun best (i, rest) =>
    match best with
    | some (_, shortest) => if rest.length < shortest.length then some (i, rest) else best
    | none => some (i, rest)) none

/-- A syllable by its lead, vowel and tail, each as long as can be. -/
def syllable? (name : List Char) : Option Nat := do
  let rest ← dropStart? "HANGUL SYLLABLE ".toList name
  let (lead, rest) ← longest? leads rest
  let (vowel, rest) ← longest? vowels rest
  let (tail, rest) ← longest? tails rest
  if rest.isEmpty then some (0xac00 + (lead * 21 + vowel) * 28 + tail) else none

/-- The character of a name; small letters count as capitals, but in ideographs and syllables. -/
def find? (name : String) : Option Char := do
  let upper := name.toUpper
  let n ← (numbered? name.toList).orElse fun _ => (syllable? name.toList).orElse fun _ =>
    (further? upper).orElse fun _ => plain? upper.toList
  some (Char.ofNat n)

end CallSnapshot.Text.CharacterName
