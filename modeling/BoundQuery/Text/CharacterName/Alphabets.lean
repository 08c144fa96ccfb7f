/-!
# Names of alphabets
-/

namespace BoundQuery.Text.CharacterName

/-- The characters up to `U+0FFF`: the alphabets of Europe, the Near East and India. -/
def letters : String := "
  a+20+SPACEaEXCLAMATION MARKaQUOTATION MARKaNUMBER SIGNaDOLLAR SIGNaPERCENT SIGNaAMPERSAND
  bPOSTROPHEaLEFT PARENTHESISaRIGHT PARENTHESISaASTERISKaPLUS SIGNaCOMMAaHYPHEN-MINUSaFULL STOP
  aSOLIDUSaDIGIT ZEROgONEgTWOhHREEgFOURhIVEgSIXhEVENgEIGHTgNINEaCOLONaSEMICOLONaLESS-THAN SIGN
  aEQUALS SIGNaGREATER-THAN SIGNaQUESTION MARKaCOMMERCIAL ATaLATIN CAPITAL LETTER AvBvCvDvEvFvGvHvI
  vJvKvLvMvNvOvPvQvRvSvTvUvVvWvXvYvZbEFT SQUARE BRACKETaREVERSE SOLIDUSbIGHT SQUARE BRACKET
  aCIRCUMFLEX ACCENTaLOW LINEaGRAVE ACCENTaLATIN SMALL LETTER AtBtCtDtEtFtGtHtItJtKtLtMtNtOtPtQtRtS
  tTtUtVtWtXtYtZbEFT CURLY BRACKETaVERTICAL LINEaRIGHT CURLY BRACKETaTILDEa+22+NO-BREAK SPACE
  aINVERTED EXCLAMATION MARKaCENT SIGNaPOUND SIGNaCURRENCY SIGNaYEN SIGNaBROKEN BARaSECTION SIGN
  aDIAERESISaCOPYRIGHT SIGNaFEMININE ORDINAL INDICATORaLEFT-POINTING DOUBLE ANGLE QUOTATION MARK
  aNOT SIGNaSOFT HYPHENaREGISTERED SIGNaMACRONaDEGREE SIGNaPLUS-MINUS SIGNaSUPERSCRIPT TWOnHREE
  aACUTE ACCENTaMICRO SIGNaPILCROW SIGNaMIDDLE DOTaCEDILLAaSUPERSCRIPT ONE
  aMASCULINE ORDINAL INDICATORaRIGHT-POINTING DOUBLE ANGLE QUOTATION MARK
  aVULGAR FRACTION ONE QUARTERuHALFqTHREE QUARTERSaINVERTED QUESTION MARK
  aLATIN CAPITAL LETTER A WITH GRAVEbcACUTEbcCIRCUMFLEXbcTILDEbcDIAERESISbcRING ABOVEwE
  vC WITH CEDILLAvE WITH GRAVEbcACUTEbcCIRCUMFLEXbcDIAERESISvI WITH GRAVEbcACUTEbcCIRCUMFLEX
  bcDIAERESISvETHvN WITH TILDEvO WITH GRAVEbcACUTEbcCIRCUMFLEXbcTILDEbcDIAERESISaMULTIPLICATION SIGN
  aLATIN CAPITAL LETTER O WITH STROKEvU WITH GRAVEbcACUTEbcCIRCUMFLEXbcDIAERESISvY WITH ACUTEvTHORN
  gSMALL LETTER SHARP StA WITH GRAVEbaACUTEbaCIRCUMFLEXbaTILDEbaDIAERESISbaRING ABOVEuE
  tC WITH CEDILLAtE WITH GRAVEbaACUTEbaCIRCUMFLEXbaDIAERESIStI WITH GRAVEbaACUTEbaCIRCUMFLEX
  baDIAERESIStETHtN WITH TILDEtO WITH GRAVEbaACUTEbaCIRCUMFLEXbaTILDEbaDIAERESISaDIVISION SIGN
  aLATIN SMALL LETTER O WITH STROKEtU WITH GRAVEbaACUTEbaCIRCUMFLEXbaDIAERESIStY WITH ACUTEtTHORN
  tY WITH DIAERESISgCAPITAL LETTER A WITH MACRONgSMALL LETTER A WITH MACRON
  gCAPITAL LETTER A WITH BREVEgSMALL LETTER A WITH BREVEgCAPITAL LETTER A WITH OGONEK
  gSMALL LETTER A WITH OGONEKgCAPITAL LETTER C WITH ACUTEgSMALL LETTER C WITH ACUTE
  gCAPITAL LETTER C WITH CIRCUMFLEXgSMALL LETTER C WITH CIRCUMFLEXgCAPITAL LETTER C WITH DOT ABOVE
  gSMALL LETTER C WITH DOT ABOVEgCAPITAL LETTER C WITH CARONgSMALL LETTER C WITH CARON
  gCAPITAL LETTER D WITH CARONgSMALL LETTER D WITH CARONgCAPITAL LETTER D WITH STROKE
  gSMALL LETTER D WITH STROKEgCAPITAL LETTER E WITH MACRONgSMALL LETTER E WITH MACRON
  gCAPITAL LETTER E WITH BREVEgSMALL LETTER E WITH BREVEgCAPITAL LETTER E WITH DOT ABOVE
  gSMALL LETTER E WITH DOT ABOVEgCAPITAL LETTER E WITH OGONEKgSMALL LETTER E WITH OGONEK
  gCAPITAL LETTER E WITH CARONgSMALL LETTER E WITH CARONgCAPITAL LETTER G WITH CIRCUMFLEX
  gSMALL LETTER G WITH CIRCUMFLEXgCAPITAL LETTER G WITH BREVEgSMALL LETTER G WITH BREVE
  gCAPITAL LETTER G WITH DOT ABOVEgSMALL LETTER G WITH DOT ABOVEgCAPITAL LETTER G WITH CEDILLA
  gSMALL LETTER G WITH CEDILLAgCAPITAL LETTER H WITH CIRCUMFLEXgSMALL LETTER H WITH CIRCUMFLEX
  gCAPITAL LETTER H WITH STROKEgSMALL LETTER H WITH STROKEgCAPITAL LETTER I WITH TILDE
  gSMALL LETTER I WITH TILDEgCAPITAL LETTER I WITH MACRONgSMALL LETTER I WITH MACRON
  gCAPITAL LETTER I WITH BREVEgSMALL LETTER I WITH BREVEgCAPITAL LETTER I WITH OGONEK
  gSMALL LETTER I WITH OGONEKgCAPITAL LETTER I WITH DOT ABOVEgSMALL LETTER DOTLESS I
  gCAPITAL LIGATURE IJgSMALL LIGATURE IJgCAPITAL LETTER J WITH CIRCUMFLEX
  gSMALL LETTER J WITH CIRCUMFLEXgCAPITAL LETTER K WITH CEDILLAgSMALL LETTER K WITH CEDILLAuRA
  gCAPITAL LETTER L WITH ACUTEgSMALL LETTER L WITH ACUTEgCAPITAL LETTER L WITH CEDILLA
  gSMALL LETTER L WITH CEDILLAgCAPITAL LETTER L WITH CARONgSMALL LETTER L WITH CARON
  gCAPITAL LETTER L WITH MIDDLE DOTgSMALL LETTER L WITH MIDDLE DOTgCAPITAL LETTER L WITH STROKE
  gSMALL LETTER L WITH STROKEgCAPITAL LETTER N WITH ACUTEgSMALL LETTER N WITH ACUTE
  gCAPITAL LETTER N WITH CEDILLAgSMALL LETTER N WITH CEDILLAgCAPITAL LETTER N WITH CARON
  gSMALL LETTER N WITH CARONvPRECEDED BY APOSTROPHEgCAPITAL LETTER ENGgSMALL LETTER ENG
  gCAPITAL LETTER O WITH MACRONgSMALL LETTER O WITH MACRONgCAPITAL LETTER O WITH BREVE
  gSMALL LETTER O WITH BREVEgCAPITAL LETTER O WITH DOUBLE ACUTEgSMALL LETTER O WITH DOUBLE ACUTE
  gCAPITAL LIGATURE OEgSMALL LIGATURE OEgCAPITAL LETTER R WITH ACUTEgSMALL LETTER R WITH ACUTE
  gCAPITAL LETTER R WITH CEDILLAgSMALL LETTER R WITH CEDILLAgCAPITAL LETTER R WITH CARON
  gSMALL LETTER R WITH CARONgCAPITAL LETTER S WITH ACUTEgSMALL LETTER S WITH ACUTE
  gCAPITAL LETTER S WITH CIRCUMFLEXgSMALL LETTER S WITH CIRCUMFLEXgCAPITAL LETTER S WITH CEDILLA
  gSMALL LETTER S WITH CEDILLAgCAPITAL LETTER S WITH CARONgSMALL LETTER S WITH CARON
  gCAPITAL LETTER T WITH CEDILLAgSMALL LETTER T WITH CEDILLAgCAPITAL LETTER T WITH CARON
  gSMALL LETTER T WITH CARONgCAPITAL LETTER T WITH STROKEgSMALL LETTER T WITH STROKE
  gCAPITAL LETTER U WITH TILDEgSMALL LETTER U WITH TILDEgCAPITAL LETTER U WITH MACRON
  gSMALL LETTER U WITH MACRONgCAPITAL LETTER U WITH BREVEgSMALL LETTER U WITH BREVE
  gCAPITAL LETTER U WITH RING ABOVEgSMALL LETTER U WITH RING ABOVE
  gCAPITAL LETTER U WITH DOUBLE ACUTEgSMALL LETTER U WITH DOUBLE ACUTEgCAPITAL LETTER U WITH OGONEK
  gSMALL LETTER U WITH OGONEKgCAPITAL LETTER W WITH CIRCUMFLEXgSMALL LETTER W WITH CIRCUMFLEX
  gCAPITAL LETTER Y WITH CIRCUMFLEXgSMALL LETTER Y WITH CIRCUMFLEXgCAPITAL LETTER Y WITH DIAERESIS
  vZ WITH ACUTEgSMALL LETTER Z WITH ACUTEgCAPITAL LETTER Z WITH DOT ABOVE
  gSMALL LETTER Z WITH DOT ABOVEgCAPITAL LETTER Z WITH CARONgSMALL LETTER Z WITH CARONtLONG S
  tB WITH STROKEgCAPITAL LETTER B WITH HOOKbcTOPBARgSMALL LETTER B WITH TOPBAR
  gCAPITAL LETTER TONE SIXgSMALL LETTER TONE SIXgCAPITAL LETTER OPEN OvC WITH HOOK
  gSMALL LETTER C WITH HOOKgCAPITAL LETTER AFRICAN DvD WITH HOOKbcTOPBARgSMALL LETTER D WITH TOPBAR
  tTURNED DELTAgCAPITAL LETTER REVERSED EvSCHWAvOPEN EvF WITH HOOKgSMALL LETTER F WITH HOOK
  gCAPITAL LETTER G WITH HOOKwAMMAgSMALL LETTER HVgCAPITAL LETTER IOTAw WITH STROKEvK WITH HOOK
  gSMALL LETTER K WITH HOOKtL WITH BARuAMBDA WITH STROKEgCAPITAL LETTER TURNED MvN WITH LEFT HOOK
  gSMALL LETTER N WITH LONG RIGHT LEGgCAPITAL LETTER O WITH MIDDLE TILDEbcHORN
  gSMALL LETTER O WITH HORNgCAPITAL LETTER OIgSMALL LETTER OIgCAPITAL LETTER P WITH HOOK
  gSMALL LETTER P WITH HOOKgLETTER YRgCAPITAL LETTER TONE TWOgSMALL LETTER TONE TWO
  gCAPITAL LETTER ESHgLETTER REVERSED ESH LOOPgSMALL LETTER T WITH PALATAL HOOK
  gCAPITAL LETTER T WITH HOOKgSMALL LETTER T WITH HOOKgCAPITAL LETTER T WITH RETROFLEX HOOK
  vU WITH HORNgSMALL LETTER U WITH HORNgCAPITAL LETTER UPSILONvV WITH HOOKvY WITH HOOK
  gSMALL LETTER Y WITH HOOKgCAPITAL LETTER Z WITH STROKEgSMALL LETTER Z WITH STROKE
  gCAPITAL LETTER EZHy REVERSEDgSMALL LETTER EZH REVERSEDxWITH TAILgLETTER TWO WITH STROKE
  gCAPITAL LETTER TONE FIVEgSMALL LETTER TONE FIVEgLETTER INVERTED GLOTTAL STOP WITH STROKEnWYNN
  nDENTAL CLICKnLATERAL CLICKnALVEOLAR CLICKnRETROFLEX CLICKgCAPITAL LETTER DZ WITH CARON
  w WITH SMALL LETTER Z WITH CARONgSMALL LETTER DZ WITH CARONgCAPITAL LETTER LJw WITH SMALL LETTER J
  gSMALL LETTER LJgCAPITAL LETTER NJw WITH SMALL LETTER JgSMALL LETTER NJ
  gCAPITAL LETTER A WITH CARONgSMALL LETTER A WITH CARONgCAPITAL LETTER I WITH CARON
  gSMALL LETTER I WITH CARONgCAPITAL LETTER O WITH CARONgSMALL LETTER O WITH CARON
  gCAPITAL LETTER U WITH CARONgSMALL LETTER U WITH CARONgCAPITAL LETTER U WITH DIAERESIS AND MACRON
  gSMALL LETTER U WITH DIAERESIS AND MACRONgCAPITAL LETTER U WITH DIAERESIS AND ACUTE
  gSMALL LETTER U WITH DIAERESIS AND ACUTEgCAPITAL LETTER U WITH DIAERESIS AND CARON
  gSMALL LETTER U WITH DIAERESIS AND CARONgCAPITAL LETTER U WITH DIAERESIS AND GRAVE
  gSMALL LETTER U WITH DIAERESIS AND GRAVEtTURNED EgCAPITAL LETTER A WITH DIAERESIS AND MACRON
  gSMALL LETTER A WITH DIAERESIS AND MACRONgCAPITAL LETTER A WITH DOT ABOVE AND MACRON
  gSMALL LETTER A WITH DOT ABOVE AND MACRONgCAPITAL LETTER AE WITH MACRON
  gSMALL LETTER AE WITH MACRONgCAPITAL LETTER G WITH STROKEgSMALL LETTER G WITH STROKE
  gCAPITAL LETTER G WITH CARONgSMALL LETTER G WITH CARONgCAPITAL LETTER K WITH CARON
  gSMALL LETTER K WITH CARONgCAPITAL LETTER O WITH OGONEKgSMALL LETTER O WITH OGONEK
  gCAPITAL LETTER O WITH OGONEK AND MACRONgSMALL LETTER O WITH OGONEK AND MACRON
  gCAPITAL LETTER EZH WITH CARONgSMALL LETTER EZH WITH CARONtJ WITH CARONgCAPITAL LETTER DZ
  w WITH SMALL LETTER ZgSMALL LETTER DZgCAPITAL LETTER G WITH ACUTEgSMALL LETTER G WITH ACUTE
  gCAPITAL LETTER HWAIRvWYNNvN WITH GRAVEgSMALL LETTER N WITH GRAVE
  gCAPITAL LETTER A WITH RING ABOVE AND ACUTEgSMALL LETTER A WITH RING ABOVE AND ACUTE
  gCAPITAL LETTER AE WITH ACUTEgSMALL LETTER AE WITH ACUTEgCAPITAL LETTER O WITH STROKE AND ACUTE
  gSMALL LETTER O WITH STROKE AND ACUTEgCAPITAL LETTER A WITH DOUBLE GRAVE
  gSMALL LETTER A WITH DOUBLE GRAVEgCAPITAL LETTER A WITH INVERTED BREVE
  gSMALL LETTER A WITH INVERTED BREVEgCAPITAL LETTER E WITH DOUBLE GRAVE
  gSMALL LETTER E WITH DOUBLE GRAVEgCAPITAL LETTER E WITH INVERTED BREVE
  gSMALL LETTER E WITH INVERTED BREVEgCAPITAL LETTER I WITH DOUBLE GRAVE
  gSMALL LETTER I WITH DOUBLE GRAVEgCAPITAL LETTER I WITH INVERTED BREVE
  gSMALL LETTER I WITH INVERTED BREVEgCAPITAL LETTER O WITH DOUBLE GRAVE
  gSMALL LETTER O WITH DOUBLE GRAVEgCAPITAL LETTER O WITH INVERTED BREVE
  gSMALL LETTER O WITH INVERTED BREVEgCAPITAL LETTER R WITH DOUBLE GRAVE
  gSMALL LETTER R WITH DOUBLE GRAVEgCAPITAL LETTER R WITH INVERTED BREVE
  gSMALL LETTER R WITH INVERTED BREVEgCAPITAL LETTER U WITH DOUBLE GRAVE
  gSMALL LETTER U WITH DOUBLE GRAVEgCAPITAL LETTER U WITH INVERTED BREVE
  gSMALL LETTER U WITH INVERTED BREVEgCAPITAL LETTER S WITH COMMA BELOW
  gSMALL LETTER S WITH COMMA BELOWgCAPITAL LETTER T WITH COMMA BELOWgSMALL LETTER T WITH COMMA BELOW
  gCAPITAL LETTER YOGHgSMALL LETTER YOGHgCAPITAL LETTER H WITH CARONgSMALL LETTER H WITH CARON
  gCAPITAL LETTER N WITH LONG RIGHT LEGgSMALL LETTER D WITH CURLgCAPITAL LETTER OUgSMALL LETTER OU
  gCAPITAL LETTER Z WITH HOOKgSMALL LETTER Z WITH HOOKgCAPITAL LETTER A WITH DOT ABOVE
  gSMALL LETTER A WITH DOT ABOVEgCAPITAL LETTER E WITH CEDILLAgSMALL LETTER E WITH CEDILLA
  gCAPITAL LETTER O WITH DIAERESIS AND MACRONgSMALL LETTER O WITH DIAERESIS AND MACRON
  gCAPITAL LETTER O WITH TILDE AND MACRONgSMALL LETTER O WITH TILDE AND MACRON
  gCAPITAL LETTER O WITH DOT ABOVEgSMALL LETTER O WITH DOT ABOVE
  gCAPITAL LETTER O WITH DOT ABOVE AND MACRONgSMALL LETTER O WITH DOT ABOVE AND MACRON
  gCAPITAL LETTER Y WITH MACRONgSMALL LETTER Y WITH MACRONtL WITH CURLtN WITH CURLtT WITH CURL
  tDOTLESS JuB DIGRAPHtQP DIGRAPHgCAPITAL LETTER A WITH STROKEvC WITH STROKE
  gSMALL LETTER C WITH STROKEgCAPITAL LETTER L WITH BARvT WITH DIAGONAL STROKE
  gSMALL LETTER S WITH SWASH TAILtZ WITH SWASH TAILgCAPITAL LETTER GLOTTAL STOP
  gSMALL LETTER GLOTTAL STOPgCAPITAL LETTER B WITH STROKEvU BARvTURNED VvE WITH STROKE
  gSMALL LETTER E WITH STROKEgCAPITAL LETTER J WITH STROKEgSMALL LETTER J WITH STROKE
  gCAPITAL LETTER SMALL Q WITH HOOK TAILgSMALL LETTER Q WITH HOOK TAILgCAPITAL LETTER R WITH STROKE
  gSMALL LETTER R WITH STROKEgCAPITAL LETTER Y WITH STROKEgSMALL LETTER Y WITH STROKEtTURNED AtALPHA
  tTURNED ALPHAtB WITH HOOKtOPEN OtC WITH CURLtD WITH TAILbaHOOKtREVERSED EtSCHWAy WITH HOOKtOPEN E
  tREVERSED OPEN Ebi WITH HOOKtCLOSED REVERSED OPEN EtDOTLESS J WITH STROKEtG WITH HOOKtSCRIPT G
  gLETTER SMALL CAPITAL GgSMALL LETTER GAMMAtRAMS HORNtTURNED HtH WITH HOOKuENG WITH HOOK
  tI WITH STROKEuOTAgLETTER SMALL CAPITAL IgSMALL LETTER L WITH MIDDLE TILDEbaBELTbaRETROFLEX HOOK
  uEZHtTURNED Mbb WITH LONG LEGtM WITH HOOKtN WITH LEFT HOOKbaRETROFLEX HOOKgLETTER SMALL CAPITAL N
  gSMALL LETTER BARRED OgLETTER SMALL CAPITAL OEgSMALL LETTER CLOSED OMEGAtPHItTURNED R
  bb WITH LONG LEGbhHOOKtR WITH LONG LEGbaTAILbaFISHHOOKuEVERSED R WITH FISHHOOK
  gLETTER SMALL CAPITAL RbbINVERTED RgSMALL LETTER S WITH HOOKtESHtDOTLESS J WITH STROKE AND HOOK
  tSQUAT REVERSED ESHtESH WITH CURLtTURNED Tu WITH RETROFLEX HOOKtU BARuPSILONtV WITH HOOKtTURNED V
  baWbaYgLETTER SMALL CAPITAL YgSMALL LETTER Z WITH RETROFLEX HOOKbaCURLtEZHw WITH CURL
  gLETTER GLOTTAL STOPnPHARYNGEAL VOICED FRICATIVEnINVERTED GLOTTAL STOPnSTRETCHED CnBILABIAL CLICK
  nSMALL CAPITAL BgSMALL LETTER CLOSED OPEN EgLETTER SMALL CAPITAL G WITH HOOKbbH
  gSMALL LETTER J WITH CROSSED-TAILtTURNED KgLETTER SMALL CAPITAL LgSMALL LETTER Q WITH HOOK
  gLETTER GLOTTAL STOP WITH STROKEnREVERSED GLOTTAL STOP WITH STROKEgSMALL LETTER DZ DIGRAPH
  uEZH DIGRAPHuZ DIGRAPH WITH CURLtTS DIGRAPHuESH DIGRAPHuC DIGRAPH WITH CURLtFENG DIGRAPH
  tLS DIGRAPHuZ DIGRAPHgLETTER BILABIAL PERCUSSIVEpDENTAL PERCUSSIVE
  gSMALL LETTER TURNED H WITH FISHHOOKbp AND TAILaMODIFIER LETTER SMALL Hx WITH HOOKwJwRwTURNED R
  be WITH HOOKwCAPITAL INVERTED RwWwYqPRIMEqDOUBLE PRIMEqTURNED COMMAqAPOSTROPHEqREVERSED COMMA
  rIGHT HALF RINGqLEFT HALF RINGqGLOTTAL STOPqREVERSED GLOTTAL STOPqLEFT ARROWHEADqRIGHT ARROWHEAD
  qUP ARROWHEADqDOWN ARROWHEADqCIRCUMFLEX ACCENTaCARONaMODIFIER LETTER VERTICAL LINEqMACRON
  qACUTE ACCENTqGRAVE ACCENTqLOW VERTICAL LINEuMACRONuGRAVE ACCENTuACUTE ACCENTqTRIANGULAR COLON
  qHALF TRIANGULAR COLONqCENTRED RIGHT HALF RINGyLEFT HALF RINGqUP TACKqDOWN TACKqPLUS SIGN
  qMINUS SIGNaBREVEaDOT ABOVEaRING ABOVEaOGONEKaSMALL TILDEaDOUBLE ACUTE ACCENT
  aMODIFIER LETTER RHOTIC HOOKqCROSS ACCENTqSMALL GAMMAwLwSwXwREVERSED GLOTTAL STOP
  qEXTRA-HIGH TONE BARqHIGH TONE BARqMID TONE BARqLOW TONE BARqEXTRA-LOW TONE BAR
  qYIN DEPARTING TONE MARKrANG DEPARTING TONE MARKqVOICINGqUNASPIRATEDqDOUBLE APOSTROPHE
  qLOW DOWN ARROWHEADuUP ARROWHEADuLEFT ARROWHEADuRIGHT ARROWHEADwNGqMIDDLE GRAVE ACCENT
  xDOUBLE GRAVE ACCENTbeACUTE ACCENTqLOW TILDEqRAISED COLONqBEGIN HIGH TONEqEND HIGH TONE
  qBEGIN LOW TONEqEND LOW TONEqSHELFqOPEN SHELFqLOW LEFT ARROWaCOMBINING GRAVE ACCENTkACUTE ACCENT
  kCIRCUMFLEX ACCENTkTILDEkMACRONkOVERLINEkBREVEkDOT ABOVElIAERESISkHOOK ABOVEkRING ABOVE
  kDOUBLE ACUTE ACCENTkCARONkVERTICAL LINE ABOVEkDOUBLE VERTICAL LINE ABOVErGRAVE ACCENTkCANDRABINDU
  kINVERTED BREVEkTURNED COMMA ABOVEkCOMMA ABOVEkREVERSED COMMA ABOVEkCOMMA ABOVE RIGHT
  kGRAVE ACCENT BELOWkACUTE ACCENT BELOWkLEFT TACK BELOWkRIGHT TACK BELOWkLEFT ANGLE ABOVEkHORN
  kLEFT HALF RING BELOWkUP TACK BELOWkDOWN TACK BELOWkPLUS SIGN BELOWkMINUS SIGN BELOW
  kPALATALIZED HOOK BELOWkRETROFLEX HOOK BELOWkDOT BELOWlIAERESIS BELOWkRING BELOWkCOMMA BELOW
  lEDILLAkOGONEKkVERTICAL LINE BELOWkBRIDGE BELOWkINVERTED DOUBLE ARCH BELOWkCARON BELOW
  lIRCUMFLEX ACCENT BELOWkBREVE BELOWkINVERTED BREVE BELOWkTILDE BELOWkMACRON BELOWkLOW LINE
  kDOUBLE LOW LINEkTILDE OVERLAYkSHORT STROKE OVERLAYkLONG STROKE OVERLAYkSHORT SOLIDUS OVERLAY
  kLONG SOLIDUS OVERLAYkRIGHT HALF RING BELOWkINVERTED BRIDGE BELOWkSQUARE BELOWlEAGULL BELOW
  kX ABOVEkVERTICAL TILDEkDOUBLE OVERLINEkGRAVE TONE MARKkACUTE TONE MARKkGREEK PERISPOMENIqKORONIS
  qDIALYTIKA TONOSqYPOGEGRAMMENIkBRIDGE ABOVEkEQUALS SIGN BELOWkDOUBLE VERTICAL LINE BELOW
  kLEFT ANGLE BELOWkNOT TILDE ABOVEkHOMOTHETIC ABOVEkALMOST EQUAL TO ABOVEkLEFT RIGHT ARROW BELOW
  kUPWARDS ARROW BELOWkGRAPHEME JOINERkRIGHT ARROWHEAD ABOVEkLEFT HALF RING ABOVEkFERMATAkX BELOW
  kLEFT ARROWHEAD BELOWkRIGHT ARROWHEAD BELOWbaAND UP ARROWHEAD BELOWqHALF RING ABOVE
  kDOT ABOVE RIGHTkASTERISK BELOWkDOUBLE RING BELOWkZIGZAG ABOVEkDOUBLE BREVE BELOWw,rMACRONx BELOW
  rTILDErINVERTED BREVErRIGHTWARDS ARROW BELOWkLATIN SMALL LETTER AbdEbdIbdObdUbdCbdDbdHbdMbdRbdTbdV
  bdXaGREEK CAPITAL LETTER HETAgSMALL LETTER HETAgCAPITAL LETTER ARCHAIC SAMPI
  gSMALL LETTER ARCHAIC SAMPIgNUMERAL SIGNgLOWER NUMERAL SIGNgCAPITAL LETTER PAMPHYLIAN DIGAMMA
  gSMALL LETTER PAMPHYLIAN DIGAMMAg+3+YPOGEGRAMMENIgSMALL REVERSED LUNATE SIGMA SYMBOL
  mDOTTED LUNATE SIGMA SYMBOLmREVERSED DOTTED LUNATE SIGMA SYMBOLgQUESTION MARKgCAPITAL LETTER YOT
  g+5+TONOSgDIALYTIKA TONOSgCAPITAL LETTER ALPHA WITH TONOSgANO TELEIA
  gCAPITAL LETTER EPSILON WITH TONOSwTA WITH TONOSvIOTA WITH TONOSv+2+OMICRON WITH TONOS
  v+2+UPSILON WITH TONOSvOMEGA WITH TONOSgSMALL LETTER IOTA WITH DIALYTIKA AND TONOS
  gCAPITAL LETTER ALPHAvBETAvGAMMAvDELTAvEPSILONvZETAvETAvTHETAvIOTAvKAPPAvLAMDAvMUvNUvXIvOMICRONvPI
  vRHOv+2+SIGMAvTAUvUPSILONvPHIvCHIvPSIvOMEGAvIOTA WITH DIALYTIKAvUPSILON WITH DIALYTIKA
  gSMALL LETTER ALPHA WITH TONOStEPSILON WITH TONOSuTA WITH TONOStIOTA WITH TONOS
  tUPSILON WITH DIALYTIKA AND TONOStALPHAtBETAtGAMMAtDELTAtEPSILONtZETAtETAtTHETAtIOTAtKAPPAtLAMDA
  tMUtNUtXItOMICRONtPItRHOtFINAL SIGMAtSIGMAtTAUtUPSILONtPHItCHItPSItOMEGAtIOTA WITH DIALYTIKA
  tUPSILON WITH DIALYTIKAtOMICRON WITH TONOStUPSILON WITH TONOStOMEGA WITH TONOSgCAPITAL KAI SYMBOL
  gBETA SYMBOLgTHETA SYMBOLgUPSILON WITH HOOK SYMBOLtACUTE AND HOOK SYMBOLtDIAERESIS AND HOOK SYMBOL
  gPHI SYMBOLhI SYMBOLgKAI SYMBOLgLETTER ARCHAIC KOPPAgSMALL LETTER ARCHAIC KOPPAgLETTER STIGMA
  gSMALL LETTER STIGMAgLETTER DIGAMMAgSMALL LETTER DIGAMMAgLETTER KOPPAgSMALL LETTER KOPPA
  gLETTER SAMPIgSMALL LETTER SAMPIaCOPTIC CAPITAL LETTER SHEIhSMALL LETTER SHEIhCAPITAL LETTER FEI
  hSMALL LETTER FEIhCAPITAL LETTER KHEIhSMALL LETTER KHEIhCAPITAL LETTER HORIhSMALL LETTER HORI
  hCAPITAL LETTER GANGIAhSMALL LETTER GANGIAhCAPITAL LETTER SHIMAhSMALL LETTER SHIMA
  hCAPITAL LETTER DEIhSMALL LETTER DEIaGREEK KAPPA SYMBOLgRHO SYMBOLgLUNATE SIGMA SYMBOLhETTER YOT
  gCAPITAL THETA SYMBOLgLUNATE EPSILON SYMBOLgREVERSED LUNATE EPSILON SYMBOLgCAPITAL LETTER SHO
  gSMALL LETTER SHOgCAPITAL LUNATE SIGMA SYMBOLpETTER SANgSMALL LETTER SANgRHO WITH STROKE SYMBOL
  gCAPITAL REVERSED LUNATE SIGMA SYMBOLoDOTTED LUNATE SIGMA SYMBOL
  oREVERSED DOTTED LUNATE SIGMA SYMBOLaCYRILLIC CAPITAL LETTER IE WITH GRAVEzOyDJEyGJEyUKRAINIAN IE
  yDZEyBYELORUSSIAN-UKRAINIAN IyYIyJEyLJEyNJEyTSHEyKJEyI WITH GRAVEySHORT UyDZHEyAyBEyVEyGHEyDEyIE
  yZHEzEyIySHORT IyKAyELzMzNyOyPEyERzSyTEyUyEFyHAyTSEyCHEySHAbaCHAyHARD SIGNyYERUySOFT SIGNyEyYUzA
  jSMALL LETTER AwBEwVEwGHEwDEwIEwZHExEwIwSHORT IwKAwELxMxNwOwPEwERxSwTEwUwEFwHAwTSEwCHEwSHAyCHA
  wHARD SIGNwYERUwSOFT SIGNwEwYUxAwIE WITH GRAVExOwDJEwGJEwUKRAINIAN IEwDZEwBYELORUSSIAN-UKRAINIAN I
  wYIwJEwLJEwNJEwTSHEwKJEwI WITH GRAVEwSHORT UwDZHEjCAPITAL LETTER OMEGAjSMALL LETTER OMEGA
  jCAPITAL LETTER YATjSMALL LETTER YATjCAPITAL LETTER IOTIFIED EjSMALL LETTER IOTIFIED E
  jCAPITAL LETTER LITTLE YUSjSMALL LETTER LITTLE YUSjCAPITAL LETTER IOTIFIED LITTLE YUS
  jSMALL LETTER IOTIFIED LITTLE YUSjCAPITAL LETTER BIG YUSjSMALL LETTER BIG YUS
  jCAPITAL LETTER IOTIFIED BIG YUSjSMALL LETTER IOTIFIED BIG YUSjCAPITAL LETTER KSIjSMALL LETTER KSI
  jCAPITAL LETTER PSIjSMALL LETTER PSIjCAPITAL LETTER FITAjSMALL LETTER FITAjCAPITAL LETTER IZHITSA
  jSMALL LETTER IZHITSAjCAPITAL LETTER IZHITSA WITH DOUBLE GRAVE ACCENT
  jSMALL LETTER IZHITSA WITH DOUBLE GRAVE ACCENTjCAPITAL LETTER UKjSMALL LETTER UK
  jCAPITAL LETTER ROUND OMEGAjSMALL LETTER ROUND OMEGAjCAPITAL LETTER OMEGA WITH TITLO
  jSMALL LETTER OMEGA WITH TITLOjCAPITAL LETTER OTjSMALL LETTER OTjCAPITAL LETTER KOPPA
  jSMALL LETTER KOPPAjTHOUSANDS SIGNbOMBINING CYRILLIC TITLOtPALATALIZATIONtDASIA PNEUMATA
  tPSILI PNEUMATAuOKRYTIEtHUNDRED THOUSANDS SIGNtMILLIONS SIGN
  bYRILLIC CAPITAL LETTER SHORT I WITH TAILjSMALL LETTER SHORT I WITH TAIL
  jCAPITAL LETTER SEMISOFT SIGNjSMALL LETTER SEMISOFT SIGNjCAPITAL LETTER ER WITH TICK
  jSMALL LETTER ER WITH TICKjCAPITAL LETTER GHE WITH UPTURNjSMALL LETTER GHE WITH UPTURN
  jCAPITAL LETTER GHE WITH STROKEjSMALL LETTER GHE WITH STROKEjCAPITAL LETTER GHE WITH MIDDLE HOOK
  jSMALL LETTER GHE WITH MIDDLE HOOKjCAPITAL LETTER ZHE WITH DESCENDER
  jSMALL LETTER ZHE WITH DESCENDERjCAPITAL LETTER ZE WITH DESCENDERjSMALL LETTER ZE WITH DESCENDER
  jCAPITAL LETTER KA WITH DESCENDERjSMALL LETTER KA WITH DESCENDER
  jCAPITAL LETTER KA WITH VERTICAL STROKEjSMALL LETTER KA WITH VERTICAL STROKE
  jCAPITAL LETTER KA WITH STROKEjSMALL LETTER KA WITH STROKEjCAPITAL LETTER BASHKIR KA
  jSMALL LETTER BASHKIR KAjCAPITAL LETTER EN WITH DESCENDERjSMALL LETTER EN WITH DESCENDER
  jCAPITAL LIGATURE EN GHEjSMALL LIGATURE EN GHEjCAPITAL LETTER PE WITH MIDDLE HOOK
  jSMALL LETTER PE WITH MIDDLE HOOKjCAPITAL LETTER ABKHASIAN HAjSMALL LETTER ABKHASIAN HA
  jCAPITAL LETTER ES WITH DESCENDERjSMALL LETTER ES WITH DESCENDERjCAPITAL LETTER TE WITH DESCENDER
  jSMALL LETTER TE WITH DESCENDERjCAPITAL LETTER STRAIGHT UjSMALL LETTER STRAIGHT U
  jCAPITAL LETTER STRAIGHT U WITH STROKEjSMALL LETTER STRAIGHT U WITH STROKE
  jCAPITAL LETTER HA WITH DESCENDERjSMALL LETTER HA WITH DESCENDERjCAPITAL LIGATURE TE TSE
  jSMALL LIGATURE TE TSEjCAPITAL LETTER CHE WITH DESCENDERjSMALL LETTER CHE WITH DESCENDER
  jCAPITAL LETTER CHE WITH VERTICAL STROKEjSMALL LETTER CHE WITH VERTICAL STROKEjCAPITAL LETTER SHHA
  jSMALL LETTER SHHAjCAPITAL LETTER ABKHASIAN CHEjSMALL LETTER ABKHASIAN CHE
  jCAPITAL LETTER ABKHASIAN CHE WITH DESCENDERjSMALL LETTER ABKHASIAN CHE WITH DESCENDER
  jLETTER PALOCHKAjCAPITAL LETTER ZHE WITH BREVEjSMALL LETTER ZHE WITH BREVE
  jCAPITAL LETTER KA WITH HOOKjSMALL LETTER KA WITH HOOKjCAPITAL LETTER EL WITH TAIL
  jSMALL LETTER EL WITH TAILjCAPITAL LETTER EN WITH HOOKjSMALL LETTER EN WITH HOOK
  jCAPITAL LETTER EN WITH TAILjSMALL LETTER EN WITH TAILjCAPITAL LETTER KHAKASSIAN CHE
  jSMALL LETTER KHAKASSIAN CHEjCAPITAL LETTER EM WITH TAILjSMALL LETTER EM WITH TAILwPALOCHKA
  jCAPITAL LETTER A WITH BREVEjSMALL LETTER A WITH BREVEjCAPITAL LETTER A WITH DIAERESIS
  jSMALL LETTER A WITH DIAERESISjCAPITAL LIGATURE A IEjSMALL LIGATURE A IE
  jCAPITAL LETTER IE WITH BREVEjSMALL LETTER IE WITH BREVEjCAPITAL LETTER SCHWAjSMALL LETTER SCHWA
  jCAPITAL LETTER SCHWA WITH DIAERESISjSMALL LETTER SCHWA WITH DIAERESIS
  jCAPITAL LETTER ZHE WITH DIAERESISjSMALL LETTER ZHE WITH DIAERESIS
  jCAPITAL LETTER ZE WITH DIAERESISjSMALL LETTER ZE WITH DIAERESISjCAPITAL LETTER ABKHASIAN DZE
  jSMALL LETTER ABKHASIAN DZEjCAPITAL LETTER I WITH MACRONjSMALL LETTER I WITH MACRON
  jCAPITAL LETTER I WITH DIAERESISjSMALL LETTER I WITH DIAERESISjCAPITAL LETTER O WITH DIAERESIS
  jSMALL LETTER O WITH DIAERESISjCAPITAL LETTER BARRED OjSMALL LETTER BARRED O
  jCAPITAL LETTER BARRED O WITH DIAERESISjSMALL LETTER BARRED O WITH DIAERESIS
  jCAPITAL LETTER E WITH DIAERESISjSMALL LETTER E WITH DIAERESISjCAPITAL LETTER U WITH MACRON
  jSMALL LETTER U WITH MACRONjCAPITAL LETTER U WITH DIAERESISjSMALL LETTER U WITH DIAERESIS
  jCAPITAL LETTER U WITH DOUBLE ACUTEjSMALL LETTER U WITH DOUBLE ACUTE
  jCAPITAL LETTER CHE WITH DIAERESISjSMALL LETTER CHE WITH DIAERESIS
  jCAPITAL LETTER GHE WITH DESCENDERjSMALL LETTER GHE WITH DESCENDER
  jCAPITAL LETTER YERU WITH DIAERESISjSMALL LETTER YERU WITH DIAERESIS
  jCAPITAL LETTER GHE WITH STROKE AND HOOKjSMALL LETTER GHE WITH STROKE AND HOOK
  jCAPITAL LETTER HA WITH HOOKjSMALL LETTER HA WITH HOOKjCAPITAL LETTER HA WITH STROKE
  jSMALL LETTER HA WITH STROKEjCAPITAL LETTER KOMI DEjSMALL LETTER KOMI DEjCAPITAL LETTER KOMI DJE
  jSMALL LETTER KOMI DJEjCAPITAL LETTER KOMI ZJEjSMALL LETTER KOMI ZJEjCAPITAL LETTER KOMI DZJE
  jSMALL LETTER KOMI DZJEjCAPITAL LETTER KOMI LJEjSMALL LETTER KOMI LJEjCAPITAL LETTER KOMI NJE
  jSMALL LETTER KOMI NJEjCAPITAL LETTER KOMI SJEjSMALL LETTER KOMI SJEjCAPITAL LETTER KOMI TJE
  jSMALL LETTER KOMI TJEjCAPITAL LETTER REVERSED ZEjSMALL LETTER REVERSED ZE
  jCAPITAL LETTER EL WITH HOOKjSMALL LETTER EL WITH HOOKjCAPITAL LETTER LHAjSMALL LETTER LHA
  jCAPITAL LETTER RHAjSMALL LETTER RHAjCAPITAL LETTER YAEjSMALL LETTER YAEjCAPITAL LETTER QA
  jSMALL LETTER QAjCAPITAL LETTER WEjSMALL LETTER WEjCAPITAL LETTER ALEUT KAjSMALL LETTER ALEUT KA
  jCAPITAL LETTER EL WITH MIDDLE HOOKjSMALL LETTER EL WITH MIDDLE HOOK
  jCAPITAL LETTER EN WITH MIDDLE HOOKjSMALL LETTER EN WITH MIDDLE HOOK
  jCAPITAL LETTER PE WITH DESCENDERjSMALL LETTER PE WITH DESCENDER
  jCAPITAL LETTER SHHA WITH DESCENDERjSMALL LETTER SHHA WITH DESCENDER
  jCAPITAL LETTER EN WITH LEFT HOOKjSMALL LETTER EN WITH LEFT HOOKjCAPITAL LETTER DZZHE
  jSMALL LETTER DZZHEjCAPITAL LETTER DCHEjSMALL LETTER DCHEjCAPITAL LETTER EL WITH DESCENDER
  jSMALL LETTER EL WITH DESCENDERa+2+ARMENIAN CAPITAL LETTER AYByBENyGIMyDAyECHyZAyEHzTyTOyZHEyINI
  yLIWNyXEHyCAyKENyHOyJAyGHADyCHEHyMENyYIyNOWySHAyVOyCHAyPEHyJHEHyRAySEHyVEWyTIWNyREHyCOyYIWNyPIWR
  yKEHyOHyFEHj+3+MODIFIER LETTER LEFT HALF RINGjAPOSTROPHEjEMPHASIS MARKkXCLAMATION MARKjCOMMA
  jQUESTION MARKjABBREVIATION MARKjSMALL LETTER TURNED AYBwAYBwBENwGIMwDAwECHwZAwEHxTwTOwZHEwINI
  wLIWNwXEHwCAwKENwHOwJAwGHADwCHEHwMENwYIwNOWwSHAwVOwCHAwPEHwJHEHwRAwSEHwVEWwTIWNwREHwCOwYIWNwPIWR
  wKEHwOHwFEHqIGATURE ECH YIWNqETTER YI WITH STROKEjFULL STOPjHYPHEN
  a+3+RIGHT-FACING ARMENIAN ETERNITY SIGNaLEFT-FACING ARMENIAN ETERNITY SIGNaARMENIAN DRAM SIGN
  a+2+HEBREW ACCENT ETNAHTAoSEGOLpHALSHELEToZAQEF QATANuGADOLoTIPEHAoREVIAoZARQAoPASHTAoYETIVoTEVIR
  oGERESHu MUQDAMrSHAYIMoQARNEY PARAoTELISHA GEDOLAoPAZERoATNAH HAFUKHoMUNAHpAHAPAKHpERKHAu KEFULA
  oDARGAoQADMAoTELISHA QETANAoYERAH BEN YOMOoOLEoILUYoDEHIoZINORhMARK MASORA CIRCLEhPOINT SHEVA
  nHATAF SEGOLtPATAHtQAMATSoIRIQnTSEREnSEGOLnPATAHnQAMATSnHOLAMs HASER FOR VAVnQUBUTS
  nDAGESH OR MAPIQnMETEGiUNCTUATION MAQAFiOINT RAFEiUNCTUATION PASEQiOINT SHIN DOToIN DOT
  iUNCTUATION SOF PASUQhMARK UPPER DOTmLOWER DOThPUNCTUATION NUN HAFUKHAiOINT QAMATS QATAN
  h+9+LETTER ALEFoBEToGIMELoDALEToHEoVAVoZAYINoHEToTEToYODoFINAL KAFoKAFoLAMEDoFINAL MEMoMEM
  oFINAL NUNoNUNoSAMEKHoAYINoFINAL PEoPEoFINAL TSADIoTSADIoQOFoRESHoSHINoTAVh+5+YOD TRIANGLE
  hLIGATURE YIDDISH DOUBLE VAVyVAV YODyDOUBLE YODhPUNCTUATION GERESHwSHAYIMa+c+ARABIC NUMBER SIGN
  hSIGN SANAHhFOOTNOTE MARKERhSIGN SAFHAoMVAThNUMBER MARK ABOVEg-INDIC CUBE ROOTnFOURTH ROOTg RAY
  g-INDIC PER MILLE SIGNrTEN THOUSAND SIGNbFGHANI SIGNbRABIC COMMAhDATE SEPARATORhPOETIC VERSE SIGN
  hSIGN MISRAmSALLALLAHOU ALAYHE WASSALLAMmALAYHE ASSALLAMmRAHMATULLAH ALAYHEoDI ALLAHOU ANHU
  mTAKHALLUSiMALL HIGH TAHsLIGATURE ALEF WITH LAM WITH YEHsZAINnFATHAnDAMMAnKASRAiEMICOLON
  hLETTER MARKhEND OF TEXT MARKhTRIPLE DOT PUNCTUATION MARKhQUESTION MARKhLETTER KASHMIRI YEHoHAMZA
  oALEF WITH MADDA ABOVEyHAMZA ABOVEoWAW WITH HAMZA ABOVEoALEF WITH HAMZA BELOWoYEH WITH HAMZA ABOVE
  oALEFoBEHoTEH MARBUTAr,pHEHoJEEMoHAHoKHAHoDALoTHALoREHoZAINoSEENpHEENpADoDADoTAHoZAHoAINoGHAIN
  oKEHEH WITH TWO DOTS ABOVEbaHREE DOTS BELOWoFARSI YEH WITH INVERTED VbdTWO DOTS ABOVE
  beHREE DOTS ABOVEhTATWEELhLETTER FEHoQAFoKAFoLAMoMEEMoNOONoHEHoWAWoALEF MAKSURAoYEHhFATHATAN
  hDAMMATANhKASRATANhFATHAhDAMMAhKASRAhSHADDAiUKUNhMADDAH ABOVEhHAMZA ABOVEnBELOWhSUBSCRIPT ALEF
  hINVERTED DAMMAhMARK NOON GHUNNAhZWARAKAYhVOWEL SIGN SMALL V ABOVEsINVERTED SMALL V ABOVE
  sDOT BELOWhREVERSED DAMMAhFATHA WITH TWO DOTShWAVY HAMZA BELOWg-INDIC DIGIT ZEROtONEtTWOuHREEtFOUR
  uIVEtSIXuEVENtEIGHTtNINEg PERCENT SIGNhDECIMAL SEPARATORhTHOUSANDS SEPARATORhFIVE POINTED STAR
  hLETTER DOTLESS BEHwQAFoSUPERSCRIPT ALEFoALEF WASLAuITH WAVY HAMZA ABOVEbjBELOWoHIGH HAMZAy ALEF
  zWAWoU WITH HAMZA ABOVEoHIGH HAMZA YEHoTTEHsEHoBEEHoTEH WITH RINGxTHREE DOTS ABOVE DOWNWARDSoPEH
  oTEHEHoBEHEHoHAH WITH HAMZA ABOVExTWO DOTS VERTICAL ABOVEoNYEHoDYEHoHAH WITH THREE DOTS ABOVE
  oTCHEHtEHoDDALpAL WITH RINGxDOT BELOWbg AND SMALL TAHqHALpDAHALpUL
  pAL WITH THREE DOTS ABOVE DOWNWARDSxFOUR DOTS ABOVEoRREHpEH WITH SMALL VxRINGxDOT BELOW
  xSMALL V BELOWxDOT BELOW AND DOT ABOVExTWO DOTS ABOVEoJEHoREH WITH FOUR DOTS ABOVE
  oSEEN WITH DOT BELOW AND DOT ABOVEyTHREE DOTS BELOWbo AND THREE DOTS ABOVEpAD WITH TWO DOTS BELOW
  yHREE DOTS ABOVEoTAH WITH THREE DOTS ABOVEoAIN WITH THREE DOTS ABOVEoDOTLESS FEH
  oFEH WITH DOT MOVED BELOWbbBELOWoVEHoFEH WITH THREE DOTS BELOWoPEHEHoQAF WITH DOT ABOVE
  xTHREE DOTS ABOVEoKEHEHoSWASH KAFoKAF WITH RINGxDOT ABOVEoNGoKAF WITH THREE DOTS BELOWoGAF
  r WITH RINGoNGOEHoGAF WITH TWO DOTS BELOWpUEHpAF WITH THREE DOTS ABOVEoLAM WITH SMALL VxDOT ABOVE
  xTHREE DOTS ABOVEbiBELOWoNOON WITH DOT BELOWtGHUNNAoRNOONoNOON WITH RINGyTHREE DOTS ABOVE
  oHEH DOACHASHMEEoTCHEH WITH DOT ABOVEoHEH WITH YEH ABOVEsGOALw WITH HAMZA ABOVEoTEH MARBUTA GOAL
  oWAW WITH RINGoKIRGHIZ OEoOEoUoYUoKIRGHIZ YUoWAW WITH TWO DOTS ABOVEoVEoFARSI YEHoYEH WITH TAIL
  xSMALL VoWAW WITH DOT ABOVEoEoYEH WITH THREE DOTS BELOWsBARREEy WITH HAMZA ABOVEhFULL STOP
  hLETTER AEhSMALL HIGH LIGATURE SAD WITH LAM WITH ALEF MAKSURAbbQAF WITH LAM WITH ALEF MAKSURA
  sMEEM INITIAL FORMsLAM ALEFsJEEMsTHREE DOTSsSEENhEND OF AYAHhSTART OF RUB EL HIZB
  iMALL HIGH ROUNDED ZEROsUPRIGHT RECTANGULAR ZEROsDOTLESS HEAD OF KHAHsMEEM ISOLATED FORMnLOW SEEN
  nHIGH MADDAnWAWnYEHnHIGH YEHsNOONhPLACE OF SAJDAHhEMPTY CENTRE LOW STOPuHIGH STOP
  hROUNDED HIGH STOP WITH FILLED CENTREhSMALL LOW MEEMhLETTER DAL WITH INVERTED V
  oREH WITH INVERTED VaEXTENDED ARABIC-INDIC DIGIT ZERObcONEbcTWObdHREEbcFOURbdIVEbcSIXbdEVENbcEIGHT
  bcNINEaARABIC LETTER SHEEN WITH DOT BELOWoDAD WITH DOT BELOWoGHAIN WITH DOT BELOW
  hSIGN SINDHI AMPERSANDtPOSTPOSITION MENhLETTER HEH WITH INVERTED VaSYRIAC END OF PARAGRAPH
  hSUPRALINEAR FULL STOPjBLINEAR FULL STOPjPRALINEAR COLONjBLINEAR COLONhHORIZONTAL COLON
  hCOLON SKEWED LEFTuRIGHThSUPRALINEAR COLON SKEWED LEFTjBLINEAR COLON SKEWED RIGHThCONTRACTION
  hHARKLEAN OBELUSqMETOBELUSqASTERISCUSh+2+ABBREVIATION MARKhLETTER ALAPHoSUPERSCRIPT ALAPHoBETH
  oGAMALt GARSHUNIoDALATHpOTLESS DALATH RISHoHEoWAWoZAINoHETHoTETHs GARSHUNIoYUDHs HEoKAPHoLAMADH
  oMIMoNUNoSEMKATHoFINAL SEMKATHoEoPEoREVERSED PEoSADHEoQAPHoRISHoSHINoTAWoPERSIAN BHETHwGHAMAL
  wDHALATHhPTHAHA ABOVEoBELOWoDOTTEDhZQAPHA ABOVEoBELOWoDOTTEDhRBASA ABOVEnBELOW
  hDOTTED ZLAMA HORIZONTALuANGULARhHBASA ABOVEnBELOWm-ESASA DOTTEDhESASA ABOVEnBELOWhRWAHA
  hFEMININE DOThQUSHSHAYAhRUKKAKHAhTWO VERTICAL DOTS ABOVEzBELOWiHREE DOTS ABOVEsBELOW
  hOBLIQUE LINE ABOVEuBELOWhMUSIChBARREKHh+3+LETTER SOGDIAN ZHAINwKHAPHwFE
  aARABIC LETTER BEH WITH THREE DOTS HORIZONTALLY BELOWxDOT BELOW AND THREE DOTS ABOVE
  xTHREE DOTS POINTING UPWARDS BELOWce AND TWO DOTS ABOVEyWO DOTS BELOW AND DOT ABOVE
  xINVERTED SMALL V BELOWxSMALL VoHAH WITH TWO DOTS ABOVEyHREE DOTS POINTING UPWARDS BELOW
  oDAL WITH TWO DOTS VERTICALLY BELOW AND SMALL TAHxINVERTED SMALL V BELOWoREH WITH STROKE
  oSEEN WITH FOUR DOTS ABOVEoAIN WITH TWO DOTS ABOVEyHREE DOTS POINTING DOWNWARDS ABOVE
  yWO DOTS VERTICALLY ABOVEoFEH WITH TWO DOTS BELOWyHREE DOTS POINTING UPWARDS BELOW
  oKEHEH WITH DOT ABOVEzTHREE DOTS ABOVEbkPOINTING UPWARDS BELOWoMEEM WITH DOT ABOVEbcBELOW
  oNOON WITH TWO DOTS BELOWySMALL TAHbeVoLAM WITH BARoREH WITH TWO DOTS VERTICALLY ABOVExHAMZA ABOVE
  oSEEN WITH TWO DOTS VERTICALLY ABOVEoHAH WITH SMALL ARABIC LETTER TAH BELOWbvAND TWO DOTS
  oSEEN WITH SMALL ARABIC LETTER TAH AND TWO DOTSoREH WITH SMALL ARABIC LETTER TAH AND TWO DOTS
  oHAH WITH SMALL ARABIC LETTER TAH ABOVEoALEF WITH EXTENDED ARABIC-INDIC DIGIT TWO ABOVE
  cbHREE ABOVEoFARSI YEH WITH EXTENDED ARABIC-INDIC DIGIT TWO ABOVEcgHREE ABOVEcfFOUR BELOW
  oWAW WITH EXTENDED ARABIC-INDIC DIGIT TWO ABOVEcaHREE ABOVE
  oYEH BARREE WITH EXTENDED ARABIC-INDIC DIGIT TWO ABOVEchHREE ABOVE
  oHAH WITH EXTENDED ARABIC-INDIC DIGIT FOUR BELOWoSEEN WITH EXTENDED ARABIC-INDIC DIGIT FOUR ABOVE
  yINVERTED VoKAF WITH TWO DOTS ABOVEaTHAANA LETTER HAAoSHAVIYANIoNOONUoRAAoBAAoLHAVIYANIoKAAFU
  oALIFUoVAAVUoMEEMUoFAAFUoDHAALUoTHAAoLAAMUoGAAFUpNAVIYANIoSEENUoDAVIYANIoZAVIYANIoTAVIYANIoYAA
  oPAVIYANIoJAVIYANIoCHAVIYANIoTTAAoHHAAoKHAAoTHAALUoZAAoSHEENUpAADHUoDAADHUoTOoZOoAINUoGHAINUoQAAFU
  oWAAVUhABAFILIiABAAFILIhIBIFILIhEEBEEFILIhUBUFILIhOOBOOFILIhEBEFILIiYBEYFILIhOBOFILIiABOAFILI
  hSUKUNhLETTER NAAa+f+NKO DIGIT ZEROkONEkTWOlHREEkFOURlIVEkSIXlEVENkEIGHTkNINEeLETTER AlEElIlElUlOO
  m,lDAGBASINNAlNlBAlPAlTAlJAlCHAlDAlRAmRAlSAlGBAlFAlKAlLAlNA WOLOSOlMAlNYAmAlHAlWAlYAlNYA WOLOSO
  lJONA JAqCHAqRAeCOMBINING SHORT HIGH TONEuLOW TONEuRISING TONEoLONG DESCENDING TONEtHIGH TONE
  tLOW TONEtRISING TONEoNASALIZATION MARKoDOUBLE DOT ABOVEeHIGH TONE APOSTROPHEeLOW TONE APOSTROPHE
  eSYMBOL OO DENNENlGBAKURUNENeCOMMAeEXCLAMATION MARKeLAJANYALANe+3+DANTAYALANfOROME SIGNeTAMAN SIGN
  aSAMARITAN LETTER ALAFrBITrGAMANrDALATrIYrBAArZENrITrTITrYUTrKAAFrLABATrMIMrNUNrSINGAATrINrFI
  rTSAADIYrQUFrRISHrSHANrTAAFkMARK INr-ALAFpOCCLUSIONpDAGESHlODIFIER LETTER EPENTHETIC YUT
  lARK EPENTHETIC YUTkVOWEL SIGN LONG EvEvOVERLONG AAvLONG AAvAAvOVERLONG AvLONG AvA
  kMODIFIER LETTER SHORT AkVOWEL SIGN SHORT AvLONG UvUkMODIFIER LETTER IkVOWEL SIGN LONG IvIvOvSUKUN
  kMARK NEQUDAAk+3+PUNCTUATION NEQUDAAwAFSAAQxNGEDwBAUwATMAAUwSHIYYAALAAkABBREVIATION MARK
  kPUNCTUATION MELODIC QITSAwZIQAAwQITSAwZAEFwTURUwARKAANUwSOF MASHFAATwANNAAU
  a+2+MANDAIC LETTER HALQApABqGqDqHpUSHENNApAZpITpATTqKSAr,qLqMqNqSpINpAPqSZqQqRqSHqTpDUSHENNApKAD
  pAINiAFFRICATION MARKiVOCALIZATION MARKiGEMINATION MARKi+3+PUNCTUATION
  a+2+SYRIAC LETTER MALAYALAM NGAyJAyNYAyTTAyNNAbaNAyBHAyRAyLLAbaLAySSA
  a+6+ARABIC LETTER ALEF WITH ATTACHED FATHAbhTOP RIGHT FATHAyRIGHT MIDDLE STROKEyLEFT MIDDLE STROKE
  yATTACHED KASRAbhBOTTOM RIGHT KASRAbhROUND DOT ABOVEbiIGHT ROUND DOTbhLEFT ROUND DOT
  bhROUND DOT BELOWyDOT ABOVEyATTACHED TOP RIGHT FATHA AND DOT ABOVE
  yRIGHT MIDDLE STROKE AND DOT ABOVEyATTACHED BOTTOM RIGHT KASRA AND DOT ABOVE
  bhTOP RIGHT FATHA AND LEFT RINGyRIGHT MIDDLE STROKE AND LEFT RING
  yATTACHED BOTTOM RIGHT KASRA AND LEFT RINGbhRIGHT HAMZAbhLEFT HAMZAhTATWEEL WITH OVERSTRUCK HAMZA
  bfWAWuTWO DOTS BELOWhLETTER THIN YEHhBASELINE ROUND DOThRAISED ROUND DOT
  hLETTER NOON WITH INVERTED SMALL VoHAH WITH INVERTED SMALL V BELOWoTAH WITH DOT BELOW
  xTHREE DOTS BELOWoKEHEH WITH TWO DOTS VERTICALLY BELOWhVERTICAL TAILh+2+POUND MARK ABOVE
  iIASTRE MARK ABOVEh+7+SMALL HIGH WORD AL-JUZnLOW WORD ISHMAAMxMAALAwTASHEELhMADDA WAAJIB
  hSUPERSCRIPT ALEF MOKHASSAShDOUBLED MADDAhHALF MADDA OVER MADDAhLETTER BEH WITH SMALL V BELOW
  xHAMZA ABOVEoJEEM WITH TWO DOTS ABOVEoTAH WITH TWO DOTS ABOVE
  oFEH WITH DOT BELOW AND THREE DOTS ABOVEoQAF WITH DOT BELOWoLAM WITH DOUBLE BAR
  oMEEM WITH THREE DOTS ABOVEoYEH WITH TWO DOTS BELOW AND HAMZA ABOVEbqDOT ABOVEoREH WITH LOOP
  oWAW WITH DOT WITHINoROHINGYA YEHoLOW ALEFoDAL WITH THREE DOTS BELOWoSAD WITH THREE DOTS BELOW
  oGAF WITH INVERTED STROKEoSTRAIGHT WAWoZAIN WITH INVERTED V ABOVEoAIN WITH THREE DOTS BELOW
  oKAF WITH DOT BELOWoQAF WITH DOT BELOW AND NO DOTS ABOVEoBEH WITH SMALL MEEM ABOVE
  oPEH WITH SMALL MEEM ABOVEoTEH WITH SMALL TEH ABOVEoREH WITH SMALL NOON ABOVE
  oYEH WITH TWO DOTS BELOW AND SMALL NOON ABOVEoAFRICAN FEHwQAFwNOONoPEH WITH SMALL V
  oTEH WITH SMALL VpTEH WITH SMALL VpCHEH WITH SMALL VoKEHEH WITH SMALL V
  oGHAIN WITH THREE DOTS ABOVEoAFRICAN QAF WITH THREE DOTS ABOVEoJEEM WITH THREE DOTS ABOVEbjBELOW
  oLAM WITH SMALL ARABIC LETTER TAH ABOVEoGRAFhSMALL FARSI YEHnHIGH FARSI YEH
  sYEH BARREE WITH TWO DOTS BELOWsWORD SAHsZAHhLARGE ROUND DOT ABOVExBELOWhSUKUN BELOW
  hLARGE CIRCLE BELOWnROUND DOT INSIDE CIRCLE BELOWhSMALL LOW WAWnHIGH WORD AR-RUBsSADsAINsQAF
  sNOON WITH KASRAnLOW NOON WITH KASRAnHIGH WORD ATH-THALATHAyS-SAJDAyN-NISFxSAKTAxQIFxWAQFA
  sFOOTNOTE MARKERsSIGN SAFHAhDISPUTED END OF AYAHhTURNED DAMMA BELOWhCURLY FATHAnDAMMAnKASRA
  nFATHATANnDAMMATANnKASRATANhTONE ONE DOT ABOVEmTWO DOTS ABOVEmLOOP ABOVEmONE DOT BELOW
  mTWO DOTS BELOWmLOOP BELOWhOPEN FATHATANmDAMMATANmKASRATANhSMALL HIGH WAWhFATHA WITH RING
  sDOT ABOVEhKASRA WITH DOT BELOWhLEFT ARROWHEAD ABOVEhRIGHT ARROWHEAD ABOVEhLEFT ARROWHEAD BELOW
  hRIGHT ARROWHEAD BELOWhDOUBLE RIGHT ARROWHEAD ABOVEbj WITH DOThRIGHT ARROWHEAD ABOVE WITH DOT
  hDAMMA WITH DOThMARK SIDEWAYS NOON GHUNNAaDEVANAGARI SIGN INVERTED CANDRABINDUqCANDRABINDU
  qANUSVARAqVISARGAlLETTER SHORT AsAtAsItIsUtUsVOCALIC RbaLsCANDRA EsSHORT EsEsAIsCANDRA OsSHORT OsO
  sAUsKAtHAsGAtHAsNGAsCAtHAsJAtHAsNYAsTTAuHAsDDAuHAsNNAsTAtHAsDAtHAsNAtNNAsPAtHAsBAtHAsMAsYAsRAtRA
  sLAtLAuLAsVAsSHAtSAtAsHAlVOWEL SIGN OExOElSIGN NUKTAqAVAGRAHAlVOWEL SIGN AAwIxIwUxUwVOCALIC RbfR
  wCANDRA EwSHORT EwEwAIwCANDRA OwSHORT OwOwAUlSIGN VIRAMAlVOWEL SIGN PRISHTHAMATRA EwAWlOM
  lSTRESS SIGN UDATTAxANUDATTAlGRAVE ACCENTlACUTE ACCENTlVOWEL SIGN CANDRA LONG EwUExUElLETTER QA
  sKHHAsGHHAsZAsDDDHAsRHAsFAsYYAsVOCALIC RRbaLLlVOWEL SIGN VOCALIC LbfLlDANDAmOUBLE DANDAmIGIT ZERO
  rONErTWOsHREErFOURsIVErSIXsEVENrEIGHTrNINElABBREVIATION SIGNlSIGN HIGH SPACING DOTlLETTER CANDRA A
  sOEtOEsAWsUEtUEsMARWARI DDAsZHAsHEAVY YAsGGAsJJAsGLOTTAL STOPsDDDAsBBAaBENGALI ANJI
  iSIGN CANDRABINDUnANUSVARAnVISARGAi+2+LETTER AqApIqIpUqUpVOCALIC RxLp+3+EpAIp+3+OpAUpKAqHApGAqHA
  pNGApCAqHApJAqHApNYApTTArHApDDArHApNNApTAqHApDAqHApNAp+2+PAqHApBAqHApMApYApRAp+2+LAp+4+SHAqSAqApHA
  i+3+SIGN NUKTAnAVAGRAHAiVOWEL SIGN AAtIuItUuUtVOCALIC RbcRt+3+EtAIt+3+OtAUiSIGN VIRAMA
  iLETTER KHANDA TAi+9+AU LENGTH MARKi+5+LETTER RRAqHAp+2+YYApVOCALIC RRxLLiVOWEL SIGN VOCALIC LbcL
  i+3+DIGIT ZEROoONEoTWOpHREEoFOURpIVEoSIXpEVENoEIGHToNINEiLETTER RA WITH MIDDLE DIAGONAL
  xLOWER DIAGONALiRUPEE MARKoSIGNiCURRENCY NUMERATOR ONEbbTWObcHREEbbFOUR
  bbONE LESS THAN THE DENOMINATORrDENOMINATOR SIXTEENiISSHARiGANDA MARKiLETTER VEDIC ANUSVARA
  iABBREVIATION SIGNiSANDHI MARKa+3+GURMUKHI SIGN ADAK BINDIoBINDIoVISARGAj+2+LETTER ArAqIrIqUrU
  q+5+EEqAIq+3+OOqAUqKArHAqGArHAqNGAqCArHAqJArHAqNYAqTTAsHAqDDAsHAqNNAqTArHAqDArHAqNAq+2+PArHAqBArHA
  qMAqYAqRAq+2+LArLAq+2+VAqSHAr+2+AqHAj+3+SIGN NUKTAj+2+VOWEL SIGN AAuIvIuUvUu+5+EEuAIu+3+OOuAU
  jSIGN VIRAMAo+4+UDAATj+8+LETTER KHHAqGHHAqZAqRRAq+2+FAj+8+DIGIT ZEROpONEpTWOqHREEpFOURqIVEpSIX
  qEVENpEIGHTpNINEjTIPPIjADDAKjIRIjURAjEK ONKARjSIGN YAKASHjABBREVIATION SIGN
  c+b+JARATI SIGN CANDRABINDUoANUSVARAoVISARGAj+2+LETTER ArAqIrIqUrUqVOCALIC RyLjVOWEL CANDRA E
  j+2+LETTER EqAIjVOWEL CANDRA Oj+2+LETTER OqAUqKArHAqGArHAqNGAqCArHAqJArHAqNYAqTTAsHAqDDAsHAqNNAqTA
  rHAqDArHAqNAq+2+PArHAqBArHAqMAqYAqRAq+2+LArLAq+2+VAqSHArSArAqHAj+3+SIGN NUKTAoAVAGRAHA
  jVOWEL SIGN AAuIvIuUvUuVOCALIC RbdRuCANDRA Eu+2+EuAIuCANDRA Ou+2+OuAUjSIGN VIRAMAj+3+OM
  j+10+LETTER VOCALIC RRyLLjVOWEL SIGN VOCALIC LbdLj+3+DIGIT ZEROpONEpTWOqHREEpFOURqIVEpSIXqEVEN
  pEIGHTpNINEjABBREVIATION SIGNjRUPEE SIGNj+8+LETTER ZHAjSIGN SUKUNpHADDAoMADDAH
  oTHREE-DOT NUKTA ABOVEoCIRCLE NUKTA ABOVEoTWO-CIRCLE NUKTA ABOVEa+2+ORIYA SIGN CANDRABINDU
  lANUSVARAlVISARGAg+2+LETTER AoAnIoInUoUnVOCALIC RvLn+3+EnAIn+3+OnAUnKAoHAnGAoHAnNGAnCAoHAnJAoHA
  nNYAnTTApHAnDDApHAnNNAnTAoHAnDAoHAnNAn+2+PAoHAnBAoHAnMAnYAnRAn+2+LAoLAn+2+VAnSHAoSAoAnHA
  g+3+SIGN NUKTAlAVAGRAHAgVOWEL SIGN AArIsIrUsUrVOCALIC RbaRr+3+ErAIr+3+OrAUgSIGN VIRAMAl+8+OVERLINE
  gAI LENGTH MARKhU LENGTH MARKg+5+LETTER RRAoHAn+2+YYAnVOCALIC RRvLLgVOWEL SIGN VOCALIC LbaL
  g+3+DIGIT ZEROmONEmTWOnHREEmFOURnIVEmSIXnEVENmEIGHTmNINEgISSHARgLETTER WAgFRACTION ONE QUARTER
  tHALFpTHREE QUARTERSpONE SIXTEENTHtEIGHTHpTHREE SIXTEENTHSa+b+TAMIL SIGN ANUSVARAlVISARGA
  g+2+LETTER AoAnIoInUoUn+4+EoEnAIn+2+OoOnAUnKAn+4+NGAnCAn+2+JAn+2+NYAnTTAn+4+NNAnTAn+4+NAoNNAnPA
  n+4+MAnYAnRAoRAnLAoLApLAnVAnSHAoSAoAnHAg+5+VOWEL SIGN AArIsIrUsUr+4+EsErAIr+2+OsOrAUgSIGN VIRAMA
  g+3+OMg+7+AU LENGTH MARKg+f+DIGIT ZEROmONEmTWOnHREEmFOURnIVEmSIXnEVENmEIGHTmNINEgNUMBER TEN
  nONE HUNDREDrTHOUSANDgDAY SIGNgMONTH SIGNgYEAR SIGNgDEBIT SIGNgCREDIT SIGNgAS ABOVE SIGN
  gRUPEE SIGNgNUMBER SIGNb+6+ELUGU SIGN COMBINING CANDRABINDU ABOVEnANDRABINDUmANUSVARAmVISARGA
  mCOMBINING ANUSVARA ABOVEhLETTER ApAoIpIoUpUoVOCALIC RwLo+2+EpEoAIo+2+OpOoAUoKApHAoGApHAoNGAoCApHA
  oJApHAoNYAoTTAqHAoDDAqHAoNNAoTApHAoDApHAoNAo+2+PApHAoBApHAoMAoYAoRApRAoLApLAqLAoVAoSHApSApAoHA
  h+3+SIGN NUKTAmAVAGRAHAhVOWEL SIGN AAsItIsUtUsVOCALIC RbbRs+2+EtEsAIs+2+OtOsAUhSIGN VIRAMA
  h+8+LENGTH MARKhAI LENGTH MARKh+2+LETTER TSAoDZAoRRRAo+3+NAKAARA POLLUo+3+VOCALIC RRwLL
  hVOWEL SIGN VOCALIC LbbLh+3+DIGIT ZEROnONEnTWOoHREEnFOURoIVEnSIXoEVENnEIGHTnNINEh+8+SIGN SIDDHAM
  hFRACTION DIGIT ZERO FOR ODD POWERS OF FOURwONE FOR ODD POWERS OF FOURwTWO FOR ODD POWERS OF FOUR
  xHREE FOR ODD POWERS OF FOURwONE FOR EVEN POWERS OF FOURwTWO FOR EVEN POWERS OF FOUR
  xHREE FOR EVEN POWERS OF FOURhSIGN TUUMUaKANNADA SIGN SPACING CANDRABINDUnCANDRABINDUnANUSVARA
  nVISARGAnSIDDHAMiLETTER AqApIqIpUqUpVOCALIC RxLp+2+EqEpAIp+2+OqOpAUpKAqHApGAqHApNGApCAqHApJAqHA
  pNYApTTArHApDDArHApNNApTAqHApDAqHApNAp+2+PAqHApBAqHApMApYApRAqRApLAqLAp+2+VApSHAqSAqApHA
  i+3+SIGN NUKTAnAVAGRAHAiVOWEL SIGN AAtIuItUuUtVOCALIC RbcRt+2+EuEtAIt+2+OuOtAUiSIGN VIRAMA
  i+8+LENGTH MARKiAI LENGTH MARKi+7+LETTER NAKAARA POLLUpFAp+2+VOCALIC RRxLLiVOWEL SIGN VOCALIC LbcL
  i+3+DIGIT ZEROoONEoTWOpHREEoFOURpIVEoSIXpEVENoEIGHToNINEi+2+SIGN JIHVAMULIYAnUPADHMANIYA
  a+e+MALAYALAM SIGN COMBINING ANUSVARA ABOVEqANDRABINDUpANUSVARApVISARGAkLETTER VEDIC ANUSVARArAsA
  rIsIrUsUrVOCALIC RzLr+2+EsErAIr+2+OsOrAUrKAsHArGAsHArNGArCAsHArJAsHArNYArTTAtHArDDAtHArNNArTAsHA
  rDAsHArNAsNNArPAsHArBAsHArMArYArRAsRArLAsLAtLArVArSHAsSAsArHArTTTAkSIGN VERTICAL BAR VIRAMA
  pCIRCULAR VIRAMApAVAGRAHAkVOWEL SIGN AAvIwIvUwUvVOCALIC RbeRv+2+EwEvAIv+2+OwOvAUkSIGN VIRAMA
  kLETTER DOT REPHkSIGN PARAk+5+LETTER CHILLU MyYyLLLkAU LENGTH MARK
  kFRACTION ONE ONE-HUNDRED-AND-SIXTIETHxFORTIETHtTHREE EIGHTIETHStONE TWENTIETHyENTH
  tTHREE TWENTIETHStONE FIFTHkLETTER ARCHAIC IIrVOCALIC RRzLLkVOWEL SIGN VOCALIC LbeLk+3+DIGIT ZERO
  qONEqTWOrHREEqFOURrIVEqSIXrEVENqEIGHTqNINEkNUMBER TENrONE HUNDREDvTHOUSANDkFRACTION ONE QUARTER
  xHALFtTHREE QUARTERStONE SIXTEENTHxEIGHTHtTHREE SIXTEENTHSkDATE MARKkLETTER CHILLU NNz,yRRyLzLyK
  a+2+SINHALA SIGN CANDRABINDUnANUSVARAYAnVISARGAYAi+2+LETTER AYANNAqAYANNAqEYANNArEYANNApIYANNA
  qIYANNApUYANNAqUYANNApIRUYANNAsUYANNAqLUYANNAsUYANNApEYANNAqEYANNApAIYANNApOYANNAqOYANNApAUYANNA
  q+4+LPAPRAANA KAYANNApMAHAAPRAANA KAYANNApALPAPRAANA GAYANNApMAHAAPRAANA GAYANNA
  pKANTAJA NAASIKYAYApSANYAKA GAYANNApALPAPRAANA CAYANNApMAHAAPRAANA CAYANNApALPAPRAANA JAYANNA
  pMAHAAPRAANA JAYANNApTAALUJA NAASIKYAYAxSANYOOGA NAAKSIKYAYApSANYAKA JAYANNApALPAPRAANA TTAYANNA
  pMAHAAPRAANA TTAYANNApALPAPRAANA DDAYANNApMAHAAPRAANA DDAYANNAqUURDHAJA NAYANNApSANYAKA DDAYANNA
  pALPAPRAANA TAYANNApMAHAAPRAANA TAYANNApALPAPRAANA DAYANNApMAHAAPRAANA DAYANNApDANTAJA NAYANNA
  p+2+SANYAKA DAYANNApALPAPRAANA PAYANNApMAHAAPRAANA PAYANNApALPAPRAANA BAYANNApMAHAAPRAANA BAYANNA
  rYANNApAMBA BAYANNApYAYANNApRAYANNAp+2+DANTAJA LAYANNAp+3+VAYANNApTAALUJA SAYANNA
  pMUURDHAJA SAYANNApDANTAJA SAYANNApHAYANNApMUURDHAJA LAYANNApFAYANNAi+4+SIGN AL-LAKUNA
  i+5+VOWEL SIGN AELA-PILLAtKETTI AEDA-PILLAtDIGA AEDA-PILLAtKETTI IS-PILLAtDIGA IS-PILLA
  tKETTI PAA-PILLAt+2+DIGA PAA-PILLAt+2+GAETTA-PILLAtKOMBUVAtDIGA KOMBUVAtKOMBU DEKA
  yVA HAA AELA-PILLAbfDIGA AELA-PILLAbfGAYANUKITTAtGAYANUKITTAi+7+LITH DIGIT ZEROtONEtTWOuHREEtFOUR
  uIVEtSIXuEVENtEIGHTtNINEi+3+VOWEL SIGN DIGA GAETTA-PILLAbaYANUKITTAiPUNCTUATION KUNDDALIYA
  a+d+THAI CHARACTER KO KAIqHO KHAIvUATvWAIvONtRAKHANGpNGO NGUpCHO CHANvINGvANGpSO SOpCHO CHOE
  pYO YINGpDO CHADApTO PATAKqHO THANtNANGMONTHOtPHUTHAOpNO NENpDO DEKpTO TAOqHO THUNGvAHANvONGpNO NU
  pBO BAIMAIpPO PLAqHO PHUNGpFO FApPHO PHANpFO FANpPHO SAMPHAOpMO MApYO YAKpRO RUAqUpLO LINGqU
  pWO WAENpSO SALAsRUSIsSUApHO HIPpLO CHULApO ANGpHO NOKHUKpPAIYANNOIpSARA ApMAI HAN-AKATpSARA AAvM
  uIvIuUEwEv,vUpPHINTHUg+5+URRENCY SYMBOL BAHTgHARACTER SARA EuAEuOuAI MAIMUANbbALAIpLAKKHANGYAO
  pMAIYAMOKsTAIKHUs EKtTHOuRItCHATTAWApTHANTHAKHATpNIKHAHITpYAMAKKANpFONGMANfDIGIT ZEROlONElTWOmHREE
  lFOURmIVElSIXmEVENlEIGHTlNINEfCHARACTER ANGKHANKHUpKHOMUTa+26+LAO LETTER KOmHO SUNGp+2+TAM
  l+2+PALI GHAlNGOlCOlPALI CHAlSO TAMl+2+PALI JHAlNYOlPALI NYAqTTAsHAqDDAsHAqNNAlDOlTOmHO SUNGpTAM
  lPALI DHAlNOlBOlPOmHO SUNGlFO TAMlPHO TAMlFO SUNGlPALI BHAlMOlYOlLO LINGp+2+OOTl+2+WOlSANSKRIT SHA
  vSAmO SUNGlHO SUNGlPALI LLAlOlHO TAMeELLIPSISeVOWEL SIGN ApMAI KANpAAqMpIqIpYqYpUqU
  eSIGN PALI VIRAMAeVOWEL SIGN MAI KONeSEMIVOWEL SIGN LOtNYOe+3+VOWEL SIGN EqIpOpAYqIe+2+KO LA
  e+2+TONE MAI EKnTHOoInCATAWAeCANCELLATION MARKeNIGGAHITAe+3+DIGIT ZEROkONEkTWOlHREEkFOURlIVEkSIX
  lEVENkEIGHTkNINEe+3+HO NOhMOeLETTER KHMU GOqNYOa+21+TIBETAN SYLLABLE OM
  iMARK GTER YIG MGO TRUNCATED Aba-UM RNAM BCAD MAbeGTER TSHEG MAnINITIAL YIG MGO MDUN MA
  nCLOSING YIG MGO SGAB MAoARET YIG MGO PHUR SHAD MAnYIG MGO TSHEG SHAD MAnSBRUL SHADnBSKUR YIG MGO
  oKA- SHOG YIG MGOnINTERSYLLABIC TSHEGnDELIMITER TSHEG BSTARnSHADnNYIS SHADnTSHEG SHAD
  nNYIS TSHEG SHADnRIN CHEN SPUNGS SHADoGYA GRAM SHADnCARET -DZUD RTAGS ME LONG CANnGTER TSHEG
  iLOGOTYPE SIGN CHAD RTAGSwLHAG RTAGSiASTROLOGICAL SIGN SGRA GCAN -CHAR RTAGSba-KHYUD PA
  baSDONG TSHUGSiSIGN RDEL DKAR GCIGyNYISySUMsNAG GCIGxNYISsDKAR RDEL NAGiDIGIT ZEROoONEoTWOpHREE
  oFOURpIVEoSIXpEVENoEIGHToNINEoHALF ONEtTWOuHREEtFOURuIVEtSIXuEVENtEIGHTtNINEtZEROiMARK BSDUS RTAGS
  nNGAS BZUNG NYI ZLAnCARET -DZUD RTAGS BZHI MIG CANnNGAS BZUNG SGOR RTAGSnCHE MGOnTSA -PHRU
  nGUG RTAGS GYONzASnANG KHANG GYONzASiSIGN YAR TSHESnMAR TSHESiLETTER KAqHApGAqHApNGApCAqHApJA
  p+2+NYApTTArHApDDArHApNNApTAqHApDAqHApNApPAqHApBAqHApMApTSArHApDZArHApWApZHAqAp-ApYApRApLApSHAqSA
  qApHApApKSSApFIXED-FORM RApKKApRRAi+5+VOWEL SIGN AAtIuItUuUtVOCALIC RbcRbbLbcLtEuEtOuO
  iSIGN RJES SU NGA ROoNAM BCADiVOWEL SIGN REVERSED IbdIiSIGN NYI ZLA NAA DAnSNA LDANiMARK HALANTA
  nPALUTAiSIGN LCI RTAGSnYANG RTAGSnLCE TSA CANnMCHU CANnGRU CAN RGYINGSrMED RGYINGS
  nINVERTED MCHU CANjUBJOINED SIGN LCE TSA CANxMCHU CANxINVERTED MCHU CANsLETTER KAbaHAzGAbaHAzNGA
  zCAbaHAzJAz+2+NYAzTTAbbHAzDDAbbHAzNNAzTAbaHAzDAbaHAzNAzPAbaHAzBAbaHAzMAzTSAbbHAzDZAbbHAzWAzZHAbaA
  z-AzYAzRAzLAzSHAbaSAbaAzHAzAzKSSAzFIXED-FORM WAbkYAbkRAi+2+KU RU KHAr BZHI MIG CAN
  iCANTILLATION SIGN HEAVY BEATbaLIGHT BEATbaCANG TE-UbaSBUB -CHALiSYMBOL DRIL BUpRDO RJEpPADMA GDAN
  pRDO RJE RGYA GRAMpPHUR PApNOR BUv NYIS -KHYILwGSUM -KHYILwBZHI -KHYILj+2+IGN RDEL NAG RDEL DKAR
  wGSUMiMARK BSKA- SHOG GI MGO RGYANnMNYAM YIG GI MGO RGYANnNYIS TSHEG
  nINITIAL BRDA RNYING YIG MGO MDUN MAnCLOSING BRDA RNYING YIG MGO SGAB MAaRIGHT-FACING SVASTI SIGN
  aLEFT-FACING SVASTI SIGNaRIGHT-FACING SVASTI SIGN WITH DOTSaLEFT-FACING SVASTI SIGN WITH DOTS
  aTIBETAN MARK LEADING MCHAN RTAGSnTRAILING MCHAN RTAGS
  "

end BoundQuery.Text.CharacterName
