/-!
# Names of presentation forms
-/

namespace BoundQuery.Text.CharacterName

/-- The characters from `U+3400` to `U+FFFF` that are not ideographs or Hangul: further scripts and
    presentation forms. -/
def forms : String := "
  a+4dc0+HEXAGRAM FOR THE CREATIVE HEAVENrRECEPTIVE EARTHnDIFFICULTY AT THE BEGINNINGnYOUTHFUL FOLLY
  nWAITINGnCONFLICTnTHE ARMYnHOLDING TOGETHERnSMALL TAMINGnTREADINGnPEACEnSTANDSTILLnFELLOWSHIP
  nGREAT POSSESSIONnMODESTYnENTHUSIASMnFOLLOWINGnWORK ON THE DECAYEDnAPPROACHnCONTEMPLATION
  nBITING THROUGHnGRACEnSPLITTING APARTnRETURNnINNOCENCEnGREAT TAMINGnMOUTH CORNERS
  nGREAT PREPONDERANCEnTHE ABYSMAL WATERrCLINGING FIREnINFLUENCEnDURATIONnRETREATnGREAT POWER
  nPROGRESSnDARKENING OF THE LIGHTnTHE FAMILYnOPPOSITIONoBSTRUCTIONnDELIVERANCEpCREASEnINCREASE
  nBREAKTHROUGHnCOMING TO MEETnGATHERING TOGETHERnPUSHING UPWARDnOPPRESSIONnTHE WELLnREVOLUTION
  nTHE CAULDRONrAROUSING THUNDERrKEEPING STILL MOUNTAINnDEVELOPMENTnTHE MARRYING MAIDENnABUNDANCE
  nTHE WANDERERrGENTLE WINDrJOYOUS LAKEnDISPERSIONnLIMITATIONnINNER TRUTHnSMALL PREPONDERANCE
  nAFTER COMPLETIONnBEFORE COMPLETIONa+5201+YI SYLLABLE ITnXn,nPnEToXo,oPmATnXn,nPmUOXo,oPmOTnXn,nP
  mEXn,mWUmBIToXo,oPoETpXp,pPnAToXo,oPnUOXp,pPnOToXo,oPnEXo,oPnUToXo,oPoRXp,nYToXo,oPoRXp,mPIToXo,oP
  oEXp,pPnAToXo,oPnUOXp,pPnOToXo,oPnUToXo,oPoRXp,nYToXo,oPoRXp,mBBITpXp,pPpETqXq,qPoATpXp,pPoUOXq,qP
  oOTpXp,pPoEXp,pPoUTpXp,pPpRXq,oYTpXp,pPmNBITpXp,pPpEXq,qPoATpXp,pPoOTpXp,pPoUTpXp,pPpRXq,oYTpXp,pP
  pRXq,mHMITpXp,pPpEXq,qPoATpXp,pPoUOXq,qPoOTpXp,pPoUTpXp,pPpRXq,oYXp,pPpRXq,mMIToXo,oPoEXp,pPnAToX
  o,oPnUOTpXp,pPnOToXo,oPnEXo,nUToXo,oPoRXp,nYToXo,oPmFIToXo,oPnAToXo,oPnOXo,oPnUToXo,oPoRXp,nYToXo,
  oPmVIToXo,oPoETpXp,pPnAToXo,oPnOToXo,oPnEXoPnUToXo,oPoRXp,nYToXo,oPoRXp,mDIToXo,oPoEXp,pPnAToXo,oP
  nUOXp,nOToXo,oPnEXo,oPnUToXo,oPoRXp,mTIToXo,oPoEXp,pPnAToXo,oPnUOTpXp,pPnOToXo,oPnEXo,oPnUToXo,oP
  oRXp,mDDITpXp,pPpEXq,qPoATpXp,pPoUOXq,qPoOTpXp,pPoEXp,pPoUTpXp,pPpRXq,mNDITpXp,pPpEXq,oATpXp,pPoOT
  pXp,pPoEXp,pPoUTpXp,pPpRXq,mHNITpXp,pPpETqXq,qPoATpXp,pPoUOXq,oOTpXpPoEXp,pPoUTmNIToXo,oPoEXp,pP
  nAXo,oPnUOXp,pPnOToXo,oPnEXo,oPnUToXo,oPoRXp,mHLITpXp,pPpEXq,qPoATpXp,pPoUOXq,qPoOXp,pPoEXp,pPoUT
  pXp,pPpRXq,oYTpXp,pPpRXq,mLIToXo,oPoETpXp,pPnAToXo,oPnUOTpXp,pPnOToXo,oPnEXo,oPnUToXo,oPoRXp,nYToX
  o,oPoRXp,mGIToXo,oPoETpXp,pPnAToXo,oPnUOTpXp,pPnOToXo,oPnEToXo,oPnUToXo,oPoRXp,mKIToXo,oPoEXp,pP
  nAToXo,oPnUOXp,pPnOToXo,oPnEToXo,oPnUToXo,oPoRXp,mGGITpXp,pEXq,qPoATpXp,pPoUOTqXq,qPoOTpXp,pPoETpX
  p,pPoUTpXp,pPpRXq,mMGIEXq,oATpXp,pPoUOXq,qPoOTpXp,pPoEXp,pPoUTpXp,pPpRXq,mHXITpXp,pPpETqXq,qPoATpX
  p,pPoUOTqXq,qPoOTpXp,pPoEXp,pPmNGIEXq,qPoATpXp,pPoUOTqXq,oOTpXp,pPoEXp,pPmHIToEXp,nAToXo,oPnUOTpX
  p,pPnOToXo,oPnEXo,oPmWAToXo,oPnUOXp,pPnOXo,oPnEXo,oPmZIToXo,oPoEXp,pPnAToXo,oPnUOXp,pPnOToXo,oPnEX
  o,oPnUToXo,oPoRXp,nYToXo,oPoRXp,mCIToXo,oPoETpXp,pPnAToXo,oPnUOXp,pPnOToXo,oPnEXo,oPnUToXo,oPoRXp,
  nYToXo,oPoRXp,mZZITpXp,pPpETqXq,qPoATpXp,pPoOXp,pPoEXp,pPoUXp,pPpRXq,oYTpXp,pPpRXq,mNZITpXp,pPpEX
  q,qPoATpXp,pPoUOXq,oOXpPoEXp,oUXp,pPpRXq,oYTpXp,pPpRXq,mSIToXo,oPoEXp,pPnAToXo,oPnUOXp,pPnOToXo,oP
  nEXo,oPnUToXo,oPoRXp,nYToXo,oPoRXp,nSITpXp,pPpEXq,qPoATpXp,pPoOTpXp,pPoEXp,pPoUTpXp,pPoYTpXp,pPpRX
  q,mZHATpXp,pPoUOXq,qPoOTpXp,pPoETpXp,pPoUTpXp,pPpRXq,oYTpXp,pPpRXq,mCHATpXp,pPoUOTqXq,qPoOTpXp,pP
  oETpXp,pPoUXp,pPpRXq,oYTpXp,pPpRXq,mRRAXp,oUOXq,oOTpXp,pPoETpXp,pPoUTpXp,pPpRXq,oYTpXp,pPpRXq,
  mNRATpXp,pPoOXp,pPoETpXp,pPoUTpXp,pPpRXq,oYTpXp,pPpRXq,mSHATpXp,pPoUOXq,qPoOTpXp,pPoETpXp,pPoUTpX
  p,pPpRXq,oYTpXp,pPpRXq,mRAToXo,oPnUOXp,pPnOToXo,oPnEXo,oPnUToXo,oPoRXp,nYToXo,oPoRXp,mJIToXo,oPoET
  pXp,pPnUOTpXp,pPnOToXo,oPnUToXo,oPoRXp,nYToXo,oPoRXp,mQIToXo,oPoETpXp,pPnUOTpXp,pPnOToXo,oPnUToXo,
  oPoRXp,nYToXo,oPoRXp,mJJITpXp,pPpETqXq,qPoUOXq,qPoOTpXp,pPoUTpXp,pPpRXq,oYTpXp,pPmNJITpXp,pPpETqX
  q,qPoUOXq,oOTpXp,pPoUXp,pPpRXq,oYTpXp,pPpRXq,nYITpXp,pPpETqXq,qPoUOXq,qPoOTpXp,pPoUTpXp,pPmXIToXo,
  oPoETpXp,pPnUOXp,nOToXo,oPnYToXo,oPoRXp,mYIToXo,oPoETpXp,pPnUOTpXp,pPnOToXo,oPnUToXo,oPoRXp,nYToX
  o,oPoRXp,d+4+RADICAL QOTlLIlKITlNYIPlCYPlSSIlGGOPmEPlMIlHXITlLYRlBBUTlMOPlYOlPUTlHXUOlTATlGAlZUP
  lCYTlDDURlBURlGGUOlNYOPlTUlOPlJJUTlZOTlPYTlHMOlYITlVURlSHYlVEPlZAlJOlNZUPlJJYlGOTlJJIElWOlDUlSHUR
  lLIElCYmUOPmIPlHXOPlSHATlZURlSHOPlCHElZZIETlNBIElKEa+a+LISU LETTER BAmPAnHAmDAmTAnHAmGAmKAnHAmJA
  mCAnHAmDZAmTSAoHAmMAmNAmLAmSAmZHAnAmNGAmHAmXAmHHAmFAmWAmSHAmYAmGHAmAnEmEnUmImOmUnEnHmOE
  mTONE MYA TIrNA POrMYA CYAvBOvNAvJEUfPUNCTUATION COMMArFULL STOPaVAI SYLLABLE EEpNnHEEnWEEqNnPEE
  nBHEEoEEnMBEEnKPEEnMGBEEnGBEEnFEEnVEEnTEEoHEEnDHEEpHEEnLEEnREEnDEEnNDEEnSEEoHEEnZEEoHEEnCEEnJEE
  nNJEEnYEEnKEEnNGGEEnGEEnMEEnNEEoYEEnIoNnHIpNnWIpNnPInBHIoInMBInKPInMGBInGBInFInVInTIoHInDHIpHInLI
  nRInDInNDInSIoHInZIoHInCInJInNJInYInKInNGGInGInMInNIoYInAoNnNGANnHApNnWApNnPAnBHAoAnMBAnKPAqNnMGBA
  nGBAnFAnVAnTAoHAnDHApHAnLAnRAnDAnNDAnSAoHAnZAoHAnCAnJAnNJAnYAnKApNnNGGAnGAnMAnNAoYAnOOpNnHOOnWOOqN
  nPOOnBHOOoOOnMBOOnKPOOnMGBOOnGBOOnFOOnVOOnTOOoHOOnDHOOpHOOnLOOnROOnDOOnNDOOnSOOoHOOnZOOoHOOnCOO
  nJOOnNJOOnYOOnKOOnNGGOOnGOOnMOOnNOOoYOOnUoNnHUpNnWUpNnPUnBHUoUnMBUnKPUnMGBUnGBUnFUnVUnTUoHUnDHUpHU
  nLUnRUnDUnNDUnSUoHUnZUoHUnCUnJUnNJUnYUnKUnNGGUnGUnMUnNUoYUnOoNnNGONnHOpNnWOpNnPOnBHOoOnMBOnKPO
  nMGBOnGBOqNnFOnVOnTOoHOnDHOpHOnLOnROnDOnNDOnSOoHOnZOoHOnCOnJOnNJOnYOnKOnNGGOnGOnMOnNOoYOnEoNnNGEN
  nHEpNnWEpNnPEnBHEoEnMBEnKPEqNnMGBEnGBEqNnFEnVEnTEoHEnDHEpHEnLEnREnDEnNDEnSEoHEnZEoHEnCEnJEnNJEnYE
  nKEnNGGErNnGEpNnMEnNEoYEoGnLENGTHENEReCOMMAeFULL STOPeQUESTION MARKeSYLLABLE NDOLE FAtKAtSOO
  gMBOL FEENGlKEENGlTINGlNIIlBANGlFAAlTAAlDANGmOONGlKUNGlTONGlDO-OlJONGeDIGIT ZEROkONEkTWOlHREEkFOUR
  lIVEkSIXlEVENkEIGHTkNINEeSYLLABLE NDOLE MAtDOa+15+CYRILLIC CAPITAL LETTER ZEMLYA
  jSMALL LETTER ZEMLYAjCAPITAL LETTER DZELOjSMALL LETTER DZELOjCAPITAL LETTER REVERSED DZE
  jSMALL LETTER REVERSED DZEjCAPITAL LETTER IOTAjSMALL LETTER IOTAjCAPITAL LETTER DJERV
  jSMALL LETTER DJERVjCAPITAL LETTER MONOGRAPH UKjSMALL LETTER MONOGRAPH UK
  jCAPITAL LETTER BROAD OMEGAjSMALL LETTER BROAD OMEGAjCAPITAL LETTER NEUTRAL YER
  jSMALL LETTER NEUTRAL YERjCAPITAL LETTER YERU WITH BACK YERjSMALL LETTER YERU WITH BACK YER
  jCAPITAL LETTER IOTIFIED YATjSMALL LETTER IOTIFIED YATjCAPITAL LETTER REVERSED YU
  jSMALL LETTER REVERSED YUjCAPITAL LETTER IOTIFIED AjSMALL LETTER IOTIFIED A
  jCAPITAL LETTER CLOSED LITTLE YUSjSMALL LETTER CLOSED LITTLE YUSjCAPITAL LETTER BLENDED YUS
  jSMALL LETTER BLENDED YUSjCAPITAL LETTER IOTIFIED CLOSED LITTLE YUS
  jSMALL LETTER IOTIFIED CLOSED LITTLE YUSjCAPITAL LETTER YNjSMALL LETTER YN
  jCAPITAL LETTER REVERSED TSEjSMALL LETTER REVERSED TSEjCAPITAL LETTER SOFT DEjSMALL LETTER SOFT DE
  jCAPITAL LETTER SOFT ELjSMALL LETTER SOFT ELjCAPITAL LETTER SOFT EMjSMALL LETTER SOFT EM
  jCAPITAL LETTER MONOCULAR OjSMALL LETTER MONOCULAR OjCAPITAL LETTER BINOCULAR O
  jSMALL LETTER BINOCULAR OjCAPITAL LETTER DOUBLE MONOCULAR OjSMALL LETTER DOUBLE MONOCULAR O
  jLETTER MULTIOCULAR ObOMBINING CYRILLIC VZMETtTEN MILLIONS SIGNtHUNDRED MILLIONS SIGN
  tTHOUSAND MILLIONS SIGNaSLAVONIC ASTERISKaCOMBINING CYRILLIC LETTER UKRAINIAN IEbaIbaYIbaU
  baHARD SIGNbaYERUbaSOFT SIGNbaOMEGAtKAVYKAtPAYEROKbYRILLIC KAVYKAjPAYEROKjCAPITAL LETTER DWE
  jSMALL LETTER DWEjCAPITAL LETTER DZWEjSMALL LETTER DZWEjCAPITAL LETTER ZHWEjSMALL LETTER ZHWE
  jCAPITAL LETTER CCHEjSMALL LETTER CCHEjCAPITAL LETTER DZZEjSMALL LETTER DZZE
  jCAPITAL LETTER TE WITH MIDDLE HOOKjSMALL LETTER TE WITH MIDDLE HOOKjCAPITAL LETTER TWE
  jSMALL LETTER TWEjCAPITAL LETTER TSWEjSMALL LETTER TSWEjCAPITAL LETTER TSSEjSMALL LETTER TSSE
  jCAPITAL LETTER TCHEjSMALL LETTER TCHEjCAPITAL LETTER HWEjSMALL LETTER HWEjCAPITAL LETTER SHWE
  jSMALL LETTER SHWEjCAPITAL LETTER DOUBLE OjSMALL LETTER DOUBLE OjCAPITAL LETTER CROSSED O
  jSMALL LETTER CROSSED OaMODIFIER LETTER CYRILLIC HARD SIGNzSOFT SIGNaCOMBINING CYRILLIC LETTER EF
  baIOTIFIED EaBAMUM LETTER AnKAnUnKUnEEnREEnTAEnOnNYInInLAnPAnRIIpEEnLEEEEnMEEEEnTAAnNDAAoJAEMnM
  nSUUnMUnSHIIoIoHEUXoEUXnKYEEoETnNUAEp,oJUAEnYOQnSHUnYUQoAnNSHAnKEUXnPEUXnNJEEoTEEnPUEnWUEnPEEnFEE
  nRUnLUnMInNInREUXoAEnKENnNGKWAENpGApAnSHOnPUAEnFUoOMnWAnNAnLInPInLOQnKOnMBENnRENnMENoAnTInKInMO
  oBAAnTETnKPAnTENnNTUUnSAMBAnFAAMAEnKOVUUpGHOMgCOMBINING MARK KOQNDONvTUKWENTISgNJAEMLIgFULL STOP
  gCOLONiMMAgSEMICOLONgQUESTION MARKa+9+MODIFIER LETTER CHINESE TONE YIN PINGbeANG PINGbeIN SHANG
  beANG SHANGbeIN QUbeANG QUbeIN RUbeANG RUqEXTRA-HIGH DOTTED TONE BARqHIGH DOTTED TONE BAR
  qMID DOTTED TONE BARqLOW DOTTED TONE BARqEXTRA-LOW DOTTED TONE BARwHIGH DOTTED LEFT-STEM TONE BAR
  qHIGH DOTTED LEFT-STEM TONE BARqMID DOTTED LEFT-STEM TONE BARqLOW DOTTED LEFT-STEM TONE BAR
  qEXTRA-LOW DOTTED LEFT-STEM TONE BARwHIGH LEFT-STEM TONE BARqHIGH LEFT-STEM TONE BAR
  qMID LEFT-STEM TONE BARqLOW LEFT-STEM TONE BARqEXTRA-LOW LEFT-STEM TONE BARqDOT VERTICAL BARuSLASH
  uHORIZONTAL BARqLOWER RIGHT CORNER ANGLEqRAISED UP ARROWxDOWN ARROWxEXCLAMATION MARK
  xINVERTED EXCLAMATION MARKqLOW INVERTED EXCLAMATION MARKqSTRESS AND HIGH TONEbbLOW TONE
  aLATIN CAPITAL LETTER EGYPTOLOGICAL ALEFgSMALL LETTER EGYPTOLOGICAL ALEF
  gCAPITAL LETTER EGYPTOLOGICAL AINgSMALL LETTER EGYPTOLOGICAL AINgCAPITAL LETTER HENG
  gSMALL LETTER HENGgCAPITAL LETTER TZgSMALL LETTER TZgCAPITAL LETTER TRESILLOgSMALL LETTER TRESILLO
  gCAPITAL LETTER CUATRILLOgSMALL LETTER CUATRILLOgCAPITAL LETTER CUATRILLO WITH COMMA
  gSMALL LETTER CUATRILLO WITH COMMAgLETTER SMALL CAPITAL FbbSgCAPITAL LETTER AAgSMALL LETTER AA
  gCAPITAL LETTER AOgSMALL LETTER AOgCAPITAL LETTER AUgSMALL LETTER AUgCAPITAL LETTER AV
  gSMALL LETTER AVgCAPITAL LETTER AV WITH HORIZONTAL BARgSMALL LETTER AV WITH HORIZONTAL BAR
  gCAPITAL LETTER AYgSMALL LETTER AYgCAPITAL LETTER REVERSED C WITH DOT
  gSMALL LETTER REVERSED C WITH DOTgCAPITAL LETTER K WITH STROKEgSMALL LETTER K WITH STROKE
  gCAPITAL LETTER K WITH DIAGONAL STROKEgSMALL LETTER K WITH DIAGONAL STROKE
  gCAPITAL LETTER K WITH STROKE AND DIAGONAL STROKEgSMALL LETTER K WITH STROKE AND DIAGONAL STROKE
  gCAPITAL LETTER BROKEN LgSMALL LETTER BROKEN LgCAPITAL LETTER L WITH HIGH STROKE
  gSMALL LETTER L WITH HIGH STROKEgCAPITAL LETTER O WITH LONG STROKE OVERLAY
  gSMALL LETTER O WITH LONG STROKE OVERLAYgCAPITAL LETTER O WITH LOOPgSMALL LETTER O WITH LOOP
  gCAPITAL LETTER OOgSMALL LETTER OOgCAPITAL LETTER P WITH STROKE THROUGH DESCENDER
  gSMALL LETTER P WITH STROKE THROUGH DESCENDERgCAPITAL LETTER P WITH FLOURISH
  gSMALL LETTER P WITH FLOURISHgCAPITAL LETTER P WITH SQUIRREL TAIL
  gSMALL LETTER P WITH SQUIRREL TAILgCAPITAL LETTER Q WITH STROKE THROUGH DESCENDER
  gSMALL LETTER Q WITH STROKE THROUGH DESCENDERgCAPITAL LETTER Q WITH DIAGONAL STROKE
  gSMALL LETTER Q WITH DIAGONAL STROKEgCAPITAL LETTER R ROTUNDAgSMALL LETTER R ROTUNDA
  gCAPITAL LETTER RUM ROTUNDAgSMALL LETTER RUM ROTUNDAgCAPITAL LETTER V WITH DIAGONAL STROKE
  gSMALL LETTER V WITH DIAGONAL STROKEgCAPITAL LETTER VYgSMALL LETTER VYgCAPITAL LETTER VISIGOTHIC Z
  gSMALL LETTER VISIGOTHIC ZgCAPITAL LETTER THORN WITH STROKEgSMALL LETTER THORN WITH STROKE
  gCAPITAL LETTER THORN WITH STROKE THROUGH DESCENDER
  gSMALL LETTER THORN WITH STROKE THROUGH DESCENDERgCAPITAL LETTER VENDgSMALL LETTER VEND
  gCAPITAL LETTER ETgSMALL LETTER ETgCAPITAL LETTER ISgSMALL LETTER ISgCAPITAL LETTER CON
  gSMALL LETTER CONaMODIFIER LETTER USaLATIN SMALL LETTER DUMtLUMtMUMtNUMtRUM
  gLETTER SMALL CAPITAL RUMgSMALL LETTER TUMtUMgCAPITAL LETTER INSULAR DgSMALL LETTER INSULAR D
  gCAPITAL LETTER INSULAR FgSMALL LETTER INSULAR FgCAPITAL LETTER INSULAR GvTURNED INSULAR G
  gSMALL LETTER TURNED INSULAR GgCAPITAL LETTER TURNED LgSMALL LETTER TURNED L
  gCAPITAL LETTER INSULAR RgSMALL LETTER INSULAR RgCAPITAL LETTER INSULAR SgSMALL LETTER INSULAR S
  gCAPITAL LETTER INSULAR TgSMALL LETTER INSULAR TaMODIFIER LETTER LOW CIRCUMFLEX ACCENTqCOLON
  qSHORT EQUALS SIGNaLATIN CAPITAL LETTER SALTILLOgSMALL LETTER SALTILLOgCAPITAL LETTER TURNED H
  gSMALL LETTER L WITH RETROFLEX HOOK AND BELTgLETTER SINOLOGICAL DOT
  gCAPITAL LETTER N WITH DESCENDERgSMALL LETTER N WITH DESCENDERgCAPITAL LETTER C WITH BAR
  gSMALL LETTER C WITH BARbaPALATAL HOOKtH WITH PALATAL HOOKgCAPITAL LETTER B WITH FLOURISH
  gSMALL LETTER B WITH FLOURISHgCAPITAL LETTER F WITH STROKEgSMALL LETTER F WITH STROKE
  gCAPITAL LETTER VOLAPUK AEgSMALL LETTER VOLAPUK AEgCAPITAL LETTER VOLAPUK OE
  gSMALL LETTER VOLAPUK OEgCAPITAL LETTER VOLAPUK UEgSMALL LETTER VOLAPUK UE
  gCAPITAL LETTER G WITH OBLIQUE STROKEgSMALL LETTER G WITH OBLIQUE STROKE
  gCAPITAL LETTER K WITH OBLIQUE STROKEgSMALL LETTER K WITH OBLIQUE STROKE
  gCAPITAL LETTER N WITH OBLIQUE STROKEgSMALL LETTER N WITH OBLIQUE STROKE
  gCAPITAL LETTER R WITH OBLIQUE STROKEgSMALL LETTER R WITH OBLIQUE STROKE
  gCAPITAL LETTER S WITH OBLIQUE STROKEgSMALL LETTER S WITH OBLIQUE STROKE
  gCAPITAL LETTER H WITH HOOKvREVERSED OPEN EvSCRIPT GvL WITH BELTvSMALL CAPITAL I
  gLETTER SMALL CAPITAL QgCAPITAL LETTER TURNED KbcTvJ WITH CROSSED-TAILvCHIvBETAgSMALL LETTER BETA
  gCAPITAL LETTER OMEGAgSMALL LETTER OMEGAgCAPITAL LETTER U WITH STROKEgSMALL LETTER U WITH STROKE
  gCAPITAL LETTER GLOTTAL AgSMALL LETTER GLOTTAL AgCAPITAL LETTER GLOTTAL IgSMALL LETTER GLOTTAL I
  gCAPITAL LETTER GLOTTAL UgSMALL LETTER GLOTTAL UgCAPITAL LETTER OLD POLISH O
  gSMALL LETTER OLD POLISH OgCAPITAL LETTER ANGLICANA WgSMALL LETTER ANGLICANA W
  gCAPITAL LETTER C WITH PALATAL HOOKvS WITH HOOKvZ WITH PALATAL HOOKvD WITH SHORT STROKE OVERLAY
  gSMALL LETTER D WITH SHORT STROKE OVERLAYgCAPITAL LETTER S WITH SHORT STROKE OVERLAY
  gSMALL LETTER S WITH SHORT STROKE OVERLAYg+6+CAPITAL LETTER CLOSED INSULAR G
  gSMALL LETTER CLOSED INSULAR Gt+2+DOUBLE THORNba+2+WYNNgCAPITAL LETTER MIDDLE SCOTS S
  gSMALL LETTER MIDDLE SCOTS SgCAPITAL LETTER SIGMOID SgSMALL LETTER SIGMOID S
  a+19+MODIFIER LETTER CAPITAL CyFyQaLATIN CAPITAL LETTER REVERSED HALF H
  gSMALL LETTER REVERSED HALF HgEPIGRAPHIC LETTER SIDEWAYS IaMODIFIER LETTER CAPITAL H WITH STROKE
  qSMALL LIGATURE OEaLATIN LETTER SMALL CAPITAL TURNED MgEPIGRAPHIC LETTER REVERSED FbhPyINVERTED M
  z LONGAyARCHAIC MaSYLOTI NAGRI LETTER AuInSIGN DVISVARAnLETTER UuEuOnSIGN HASANTAnLETTER KOvHOuGO
  vHOnSIGN ANUSVARAnLETTER COvHOuJOvHOuTTOwHOuDDOwHOuTOvHOuDOvHOuNOuPOvHOuBOvHOuMOuROuLOuRROuSOuHO
  nVOWEL SIGN AyIyUyEyOOnPOETRY MARK-1z2z3z4nSIGN ALTERNATE HASANTA
  a+4+NORTH INDIC FRACTION ONE QUARTERzHALFvTHREE QUARTERSvONE SIXTEENTHzEIGHTHvTHREE SIXTEENTHS
  mQUARTER MARKmPLACEHOLDER MARKmRUPEE MARKmQUANTITY MARKa+7+PHAGS-PA LETTER KArHAqGAqNGAqCArHAqJA
  qNYAqTArHAqDAqNAqPArHAqBAqMAqTSAsHAqDZAqWAqZHArAqSMALL AqYAqRAqLAqSHArAqHAqAqIqUqEqOqQAqXAqFAqGGA
  qEEjSUBJOINED LETTER WAbaYAjLETTER TTAsHAqDDAqNNAqALTERNATE YAqVOICELESS SHAvD HAqASPIRATED FA
  jSUBJOINED LETTER RAlPERFIXED LETTER RAjLETTER CANDRABINDUjSINGLE HEAD MARKjDOUBLE HEAD MARK
  jMARK SHADoDOUBLE SHADa+9+SAURASHTRA SIGN ANUSVARAqVISARGAlLETTER AtAsItIsUtUsVOCALIC RbbRbaLbbLsE
  tEsAIsOtOsAUsKAtHAsGAtHAsNGAsCAtHAsJAtHAsNYAsTTAuHAsDDAuHAsNNAsTAtHAsDAtHAsNAsPAtHAsBAtHAsMAsYAsRA
  sLAsVAsSHAtSAtAsHAsLLAlCONSONANT SIGN HAARUlVOWEL SIGN AAwIxIwUxUwVOCALIC RbfRbeLbfLwExEwAIwOxOwAU
  lSIGN VIRAMAqCANDRABINDUl+9+DANDAmOUBLE DANDAmIGIT ZEROrONErTWOsHREErFOURsIVErSIXsEVENrEIGHTrNINE
  a+7+COMBINING DEVANAGARI DIGIT ZERObbONEbbTWObcHREEbbFOURbcIVEbbSIXbcEVENbbEIGHTbbNINEvLETTER AbcU
  bcKAbcNAbcPAbcRAbcVIvSIGN AVAGRAHAaDEVANAGARI SIGN SPACING CANDRABINDUqCANDRABINDU VIRAMA
  qDOUBLE CANDRABINDU VIRAMAqCANDRABINDU TWObdHREEbcAVAGRAHAqPUSHPIKAlGAP FILLERlCARETlHEADSTROKE
  lSIGN SIDDHAMlJAIN OMlLETTER AYlVOWEL SIGN AYaKAYAH LI DIGIT ZEROpONEpTWOqHREEpFOURqIVEpSIXqEVEN
  pEIGHTpNINEjLETTER KArHAqGAqNGAqSArHAqZAqNYAqTAqHTAqNAqPArHAqMAqDAqBAqRAqYAqLAqWAqTHAqHAqVAqCAqA
  qOEqIqOOjVOWEL UEpEpUpEEpOjTONE PLOPHUoCALYAt PLOPHUjSIGN CWIoSHYAaREJANG LETTER KAoGAoNGAoTAoDA
  oNAoPAoBAoMAoCAoJAoNYAoSAoRAoLAoYAoWAoHAoMBAoNGGApDApYJAoAhVOWEL SIGN IsUsEsAIsOsAUsEUtA
  hCONSONANT SIGN NGx,wRwHhVIRAMAh+c+SECTION MARKaHANGUL CHOSEONG TIKEUT-MIEUMxPIEUPxSIOSxCIEUC
  qRIEUL-KIYEOKwSSANGKIYEOKwTIKEUTwSSANGTIKEUTwMIEUMwPIEUPwSSANGPIEUPwKAPYEOUNPIEUPwSIOSwCIEUC
  wKHIEUKHqMIEUM-KIYEOKwTIKEUTwSIOSqPIEUP-SIOS-THIEUTHwKHIEUKHwHIEUHqSSANGSIOS-PIEUPqIEUNG-RIEUL
  wHIEUHqSSANGCIEUC-HIEUHvTHIEUTHqPHIEUPH-HIEUHqHIEUH-SIOSqSSANGYEORINHIEUH
  a+4+JAVANESE SIGN PANYANGGAoCECAKoLAYARoWIGNYANjLETTER AqI KAWIr,rIqUqPA CEREKqNGA LELETz RASWADI
  qEqAIqOqKAs SASAKtMURDAqGAs MURDAqNGAqCAs MURDAqJAqNYA MURDAqJA MAHAPRANAqNYAqTTAt MAHAPRANAqDDA
  t MAHAPRANAqNA MURDAqTAs MURDAqDAs MAHAPRANAqNAqPAs MURDAqBAs MURDAqMAqYAqRAs AGUNGqLAqWAqSA MURDA
  uAHAPRANAs,qHAjSIGN CECAK TELUjVOWEL SIGN TARUNGvOLONGuWULUy MELIKuSUKUy MENDUTuTALINGuDIRGA MURE
  uPEPETjCONSONANT SIGN KERETyPENGKALyCAKRAjPANGKONjLEFT RERENGGANjRIGHT RERENGGANjPADA ANDAPoMADYA
  oLUHURoWINDUoPANGKAToLINGSApUNGSIoADEGs ADEGoPISELEHjTURNED PADA PISELEHj+2+PANGRANGKEPjDIGIT ZERO
  pONEpTWOqHREEpFOURqIVEpSIXqEVENpEIGHTpNINEj+5+PADA TIRTA TUMETESoISEN-ISENaMYANMAR LETTER SHAN GHA
  uCHAuJHAuNNAuBHAiSIGN SHAN SAWiMODIFIER LETTER SHAN REDUPLICATIONiLETTER TAI LAING NYAzFAzGAbaHA
  zJAbaHAzDDAbbHAzNNAiTAI LAING DIGIT ZEROyONEyTWOzHREEyFOURzIVEySIXzEVENyEIGHTyNINE
  iLETTER TAI LAING LLAzDAbaHAzBAbaHAa+2+CHAM LETTER AmImUmEmAImOmKAnHAmGAnHAmNGUEoAmCHAoHAmJAnHA
  mNHUEoAoJAmTAnHAmDAnHAmNUEnAmDDAmPAnPAnHAmBAnHAmMUEnAmBBAmYAmRAmLAmVAmSSAnAmHAfVOWEL SIGN AAqIrI
  qEIqUqOEr,qAIrUqUEfCONSONANT SIGN YAuRAuLAuWAf+a+LETTER FINAL KsGsNGfCONSONANT SIGN FINAL NG
  fLETTER FINAL CHsTsNsPsYsRsLsSSfCONSONANT SIGN FINAL MbaHf+3+DIGIT ZEROlONElTWOmHREElFOURmIVElSIX
  mEVENlEIGHTlNINEf+3+PUNCTUATION SPIRALrDANDAsOUBLE DANDArTRIPLE DANDAaMYANMAR LETTER KHAMTI GAwCA
  xHAwJAxHAwNYAwTTAyHAwDDAyHAxHAwNAwSAwHAxHAwFAiMODIFIER LETTER KHAMTI REDUPLICATION
  iLETTER KHAMTI XAwZAwRAjOGOGRAM KHAMTI OAYyQNyHMiSYMBOL AITON EXCLAMATIONvONEvTWOiLETTER AITON RA
  iSIGN PAO KAREN TONEnTAI LAING TONE-2bc5iLETTER SHWE PALAUNG CHAbcSHAaTAI VIET LETTER LOW KO
  qHIGH KOqLOW KHOqHIGH KHOqLOW KHHOqHIGH KHHOqLOW GOqHIGH GOqLOW NGOqHIGH NGOqLOW COqHIGH CO
  qLOW CHOqHIGH CHOqLOW SOqHIGH SOqLOW NYOqHIGH NYOqLOW DOqHIGH DOqLOW TOqHIGH TOqLOW THOqHIGH THO
  qLOW NOqHIGH NOqLOW BOqHIGH BOqLOW POqHIGH POqLOW PHOqHIGH PHOqLOW FOqHIGH FOqLOW MOqHIGH MO
  qLOW YOqHIGH YOqLOW ROqHIGH ROqLOW LOqHIGH LOqLOW VOqHIGH VOqLOW HOqHIGH HOqLOW OqHIGH OjMAI KANG
  jVOWEL AApIpUEq,pEpOjMAI KHITjVOWEL IApUEAqApAUEqYqNqMjTONE MAI EKsNUENGsTHOsSONGj+19+SYMBOL KON
  qNUENGqSAMqHO HOIqKOI KOIaMEETEI MAYEK LETTER EuOuCHAuNYAuTTAwHAuDDAwHAuNNAuSHAvSAnVOWEL SIGN II
  yUUyAAIzUzAUnCHEIKHANnAHANG KHUDAMoNJInSYLLABLE REPETITION MARKnWORD REPETITION MARK
  nVOWEL SIGN VISARGAoIRAMAa+b+ETHIOPIC SYLLABLE TTHUvIvAAvEEw,vOs+3+DDHUvIvAAvEEw,vOt+3+ZUuIuAAuEE
  v,uOs+a+CCHHAwUwIwAAwEEx,wOs+2+BBAuUuIuAAuEEv,uOa+2+LATIN SMALL LETTER BARRED ALPHA
  tA REVERSED-SCHWAtBLACKLETTER EuARRED EtE WITH FLOURISHtLENIS FtSCRIPT G WITH CROSSED-TAIL
  tL WITH INVERTED LAZY SbaDOUBLE MIDDLE TILDEbaMIDDLE RINGtM WITH CROSSED-TAILtN WITH CROSSED-TAIL
  tENG WITH CROSSED-TAILtBLACKLETTER Obg WITH STROKEtOPEN O WITH STROKEtINVERTED OE
  tTURNED OE WITH STROKEbiHORIZONTAL STROKEbb OPEN-Obi WITH STROKEtSTIRRUP R
  gLETTER SMALL CAPITAL R WITH RIGHT LEGgSMALL LETTER R WITHOUT HANDLEtDOUBLE RtR WITH CROSSED-TAIL
  tDOUBLE R WITH CROSSED-TAILtSCRIPT Rbb WITH RINGtBASELINE ESHtU WITH SHORT RIGHT LEG
  vBAR WITH SHORT RIGHT LEGuItTURNED UItU WITH LEFT HOOKtCHIw WITH LOW RIGHT RINGbgLEFT SERIF
  tX WITH LOW RIGHT RINGbcNG LEFT LEGbn AND LOW RIGHT RINGboWITH SERIFtY WITH SHORT RIGHT LEG
  aMODIFIER BREVE WITH INVERTED BREVEjLETTER SMALL HENGwL WITH INVERTED LAZY SbdMIDDLE TILDE
  wU WITH LEFT HOOKaLATIN SMALL LETTER SAKHA YATtIOTIFIED EtOPEN OEtUOtINVERTED ALPHA
  aGREEK LETTER SMALL CAPITAL OMEGAaLATIN SMALL LETTER DZ DIGRAPH WITH RETROFLEX HOOK
  tTS DIGRAPH WITH RETROFLEX HOOKuURNED R WITH MIDDLE TILDEaMODIFIER LETTER SMALL TURNED WqLEFT TACK
  qRIGHT TACKa+5+CHEROKEE SMALL LETTER AwEwIwOwUwVwGAwKAwGExIxOxUxVwHAxExIxOxUxVwLAxExIxOxUxVwMAxExI
  xOxUwNAwHNAwNAHxExIxOxUxVwQUAyEyIyOyUyVwSAx,xExIxOxUxVwDAwTAwDEwTEwDIwTIwDOxUxVxLAwTLAyEyIyOyUyV
  xSAyEyIyOyUyVwWAxExIxOxUxVwYAaMEETEI MAYEK LETTER KOKuSAMuLAIuMITuPAuNAuCHILuTILuKHOUuNGOUuTHOU
  uWAIuYANGuHUKuUNuIuPHAMuATIYAuGOKuJHAMuRAIuBAuJILuDILuGHOUuDHOUuBHAMuKOK LONSUMuLAI LONSUM
  uMIT LONSUMuPA LONSUMuNA LONSUMuTIL LONSUMuNGOU LONSUMuI LONSUMnVOWEL SIGN ONAPyINAPyANAPyYENAP
  ySOUNAPyUNAPyCHEINAPyNUNGnCHEIKHEInLUM IYEKnAPUN IYEKn+3+DIGIT ZEROtONEtTWOuHREEtFOURuIVEtSIXuEVEN
  tEIGHTtNINEa+2bb7+HANGUL JUNGSEONG O-YEOtO-IrYO-AvEuEOrU-YEOtI-IrYU-AEuOrEU-AuEOv,uOrI-YA-OvEuEOv,
  tO-ItYOuUtIrARAEA-AxEi+5+ONGSEONG NIEUN-RIEULxCHIEUCHrSSANGTIKEUTbc-PIEUPrTIKEUT-PIEUPySIOS
  bc-KIYEOKyCIEUCzHIEUCHyTHIEUTHrRIEUL-SSANGKIYEOKxKIYEOK-HIEUHrSSANGRIEUL-KHIEUKHrRIEUL-MIEUM-HIEUH
  xPIEUP-TIKEUTbdPHIEUPHxYESIEUNGzORINHIEUH-HIEUHrKAPYEOUNRIEULrMIEUM-NIEUNxSSANGNIEUNrSSANGMIEUM
  rMIEUM-PIEUP-SIOSxCIEUCrPIEUP-TIKEUTxRIEUL-PHIEUPHxMIEUMrSSANGPIEUPrPIEUP-SIOS-TIKEUTxCIEUCyHIEUCH
  rSIOS-MIEUMwKAPYEOUNPIEUPsSANGSIOS-KIYEOKbbTIKEUTsIOS-PANSIOSwCIEUCxHIEUCHwTHIEUTHwHIEUH
  rPANSIOS-PIEUPzKAPYEOUNPIEUPrYESIEUNG-MIEUMbaHIEUHrCIEUC-PIEUPxSSANGPIEUPrSSANGCIEUCrPHIEUPH-SIOS
  zTHIEUTHa+2105+CJK COMPATIBILITY IDEOGRAPH-F900bf1bf2bf3bf4bf5bf6bf7bf8bf9bfAbfBbfCbfDbfEbfFbe10
  bf1bf2bf3bf4bf5bf6bf7bf8bf9bfAbfBbfCbfDbfEbfFbe20bf1bf2bf3bf4bf5bf6bf7bf8bf9bfAbfBbfCbfDbfEbfFbe30
  bf1bf2bf3bf4bf5bf6bf7bf8bf9bfAbfBbfCbfDbfEbfFbe40bf1bf2bf3bf4bf5bf6bf7bf8bf9bfAbfBbfCbfDbfEbfFbe50
  bf1bf2bf3bf4bf5bf6bf7bf8bf9bfAbfBbfCbfDbfEbfFbe60bf1bf2bf3bf4bf5bf6bf7bf8bf9bfAbfBbfCbfDbfEbfFbe70
  bf1bf2bf3bf4bf5bf6bf7bf8bf9bfAbfBbfCbfDbfEbfFbe80bf1bf2bf3bf4bf5bf6bf7bf8bf9bfAbfBbfCbfDbfEbfFbe90
  bf1bf2bf3bf4bf5bf6bf7bf8bf9bfAbfBbfCbfDbfEbfFbeA0bf1bf2bf3bf4bf5bf6bf7bf8bf9bfAbfBbfCbfDbfEbfFbeB0
  bf1bf2bf3bf4bf5bf6bf7bf8bf9bfAbfBbfCbfDbfEbfFbeC0bf1bf2bf3bf4bf5bf6bf7bf8bf9bfAbfBbfCbfDbfEbfFbeD0
  bf1bf2bf3bf4bf5bf6bf7bf8bf9bfAbfBbfCbfDbfEbfFbeE0bf1bf2bf3bf4bf5bf6bf7bf8bf9bfAbfBbfCbfDbfEbfFbeF0
  bf1bf2bf3bf4bf5bf6bf7bf8bf9bfAbfBbfCbfDbfEbfFbdA00bf1bf2bf3bf4bf5bf6bf7bf8bf9bfAbfBbfCbfDbfEbfF
  be10bf1bf2bf3bf4bf5bf6bf7bf8bf9bfAbfBbfCbfDbfEbfFbe20bf1bf2bf3bf4bf5bf6bf7bf8bf9bfAbfBbfCbfDbfEbfF
  be30bf1bf2bf3bf4bf5bf6bf7bf8bf9bfAbfBbfCbfDbfEbfFbe40bf1bf2bf3bf4bf5bf6bf7bf8bf9bfAbfBbfCbfDbfEbfF
  be50bf1bf2bf3bf4bf5bf6bf7bf8bf9bfAbfBbfCbfDbfEbfFbe60bf1bf2bf3bf4bf5bf6bf7bf8bf9bfAbfBbfCbfD
  be+3+70bf1bf2bf3bf4bf5bf6bf7bf8bf9bfAbfBbfCbfDbfEbfFbe80bf1bf2bf3bf4bf5bf6bf7bf8bf9bfAbfBbfCbfDbfE
  bfFbe90bf1bf2bf3bf4bf5bf6bf7bf8bf9bfAbfBbfCbfDbfEbfFbeA0bf1bf2bf3bf4bf5bf6bf7bf8bf9bfAbfBbfCbfDbfE
  bfFbeB0bf1bf2bf3bf4bf5bf6bf7bf8bf9bfAbfBbfCbfDbfEbfFbeC0bf1bf2bf3bf4bf5bf6bf7bf8bf9bfAbfBbfCbfDbfE
  bfFbeD0bf1bf2bf3bf4bf5bf6bf7bf8bf9a+27+LATIN SMALL LIGATURE FFwIwLwFIxLvLONG S TvST
  a+d+ARMENIAN SMALL LIGATURE MEN NOWbcECHbcINIyVEW NOWyMEN XEHa+6+HEBREW LETTER YOD WITH HIRIQ
  hPOINT JUDEO-SPANISH VARIKAhLIGATURE YIDDISH YOD YOD PATAHiETTER ALTERNATIVE AYINoWIDE ALEFtDALET
  tHEtKAFtLAMEDtFINAL MEMtRESHtTAVoALTERNATIVE PLUS SIGNoSHIN WITH SHIN DOTzIN DOT
  yDAGESH AND SHIN DOTbkIN DOToALEF WITH PATAHyQAMATSyMAPIQoBET WITH DAGESHoGIMEL WITH DAGESH
  oDALET WITH DAGESHoHE WITH MAPIQoVAV WITH DAGESHoZAYIN WITH DAGESHo+2+TET WITH DAGESH
  oYOD WITH DAGESHoFINAL KAF WITH DAGESHoKAF WITH DAGESHoLAMED WITH DAGESHo+2+MEM WITH DAGESH
  o+2+NUN WITH DAGESHoSAMEKH WITH DAGESHo+2+FINAL PE WITH DAGESHoPE WITH DAGESHo+2+TSADI WITH DAGESH
  oQOF WITH DAGESHoRESH WITH DAGESHoSHIN WITH DAGESHoTAV WITH DAGESHoVAV WITH HOLAMoBET WITH RAFE
  oKAF WITH RAFEoPE WITH RAFEiIGATURE ALEF LAMEDaARABIC LETTER ALEF WASLA ISOLATED FORMzFINAL FORM
  oBEEH ISOLATED FORMtFINAL FORMtINITIAL FORMtMEDIAL FORMoPEH ISOLATED FORMsFINAL FORMsINITIAL FORM
  sMEDIAL FORMoBEHEH ISOLATED FORMuFINAL FORMuINITIAL FORMuMEDIAL FORMoTTEHEH ISOLATED FORM
  vFINAL FORMvINITIAL FORMvMEDIAL FORMpEHEH ISOLATED FORMuFINAL FORMuINITIAL FORMuMEDIAL FORM
  pTEH ISOLATED FORMtFINAL FORMtINITIAL FORMtMEDIAL FORMoVEH ISOLATED FORMsFINAL FORMsINITIAL FORM
  sMEDIAL FORMoPEHEH ISOLATED FORMuFINAL FORMuINITIAL FORMuMEDIAL FORMoDYEH ISOLATED FORMtFINAL FORM
  tINITIAL FORMtMEDIAL FORMoNYEH ISOLATED FORMtFINAL FORMtINITIAL FORMtMEDIAL FORM
  oTCHEH ISOLATED FORMuFINAL FORMuINITIAL FORMuMEDIAL FORMtEH ISOLATED FORMwFINAL FORMwINITIAL FORM
  wMEDIAL FORMoDDAHAL ISOLATED FORMvFINAL FORMpAHAL ISOLATED FORMuFINAL FORMpUL ISOLATED FORM
  sFINAL FORMpDAL ISOLATED FORMtFINAL FORMoJEH ISOLATED FORMsFINAL FORMoRREH ISOLATED FORM
  tFINAL FORMoKEHEH ISOLATED FORMuFINAL FORMuINITIAL FORMuMEDIAL FORMoGAF ISOLATED FORMsFINAL FORM
  sINITIAL FORMsMEDIAL FORMpUEH ISOLATED FORMtFINAL FORMtINITIAL FORMtMEDIAL FORM
  oNGOEH ISOLATED FORMuFINAL FORMuINITIAL FORMuMEDIAL FORMpOON GHUNNA ISOLATED FORMbaFINAL FORM
  oRNOON ISOLATED FORMuFINAL FORMuINITIAL FORMuMEDIAL FORMoHEH WITH YEH ABOVE ISOLATED FORM
  bhFINAL FORMsGOAL ISOLATED FORMxFINAL FORMxINITIAL FORMxMEDIAL FORMsDOACHASHMEE ISOLATED FORM
  beFINAL FORMbeINITIAL FORMbeMEDIAL FORMoYEH BARREE ISOLATED FORMzFINAL FORM
  zWITH HAMZA ABOVE ISOLATED FORMbqFINAL FORMhSYMBOL DOT ABOVEsBELOWoTWO DOTS ABOVExBELOW
  pHREE DOTS ABOVEzBELOWzPOINTING DOWNWARDS ABOVEbsBELOWoFOUR DOTS ABOVEyBELOW
  oDOUBLE VERTICAL BAR BELOWoTWO DOTS VERTICALLY ABOVEbiBELOWoRINGoSMALL TAH ABOVEyBELOWoWASLA ABOVE
  h+11+LETTER NG ISOLATED FORMrFINAL FORMrINITIAL FORMrMEDIAL FORMoU ISOLATED FORMqFINAL FORM
  oOE ISOLATED FORMrFINAL FORMoYU ISOLATED FORMrFINAL FORMoU WITH HAMZA ABOVE ISOLATED FORM
  oVE ISOLATED FORMrFINAL FORMoKIRGHIZ OE ISOLATED FORMzFINAL FORMwYU ISOLATED FORMzFINAL FORM
  oE ISOLATED FORMqFINAL FORMqINITIAL FORMqMEDIAL FORM
  oUIGHUR KAZAKH KIRGHIZ ALEF MAKSURA INITIAL FORMbxMEDIAL FORM
  iIGATURE YEH WITH HAMZA ABOVE WITH ALEF ISOLATED FORMbvFINAL FORMbrE ISOLATED FORMbtFINAL FORM
  bqWAW ISOLATED FORMbuFINAL FORMbqU ISOLATED FORMbsFINAL FORMbqOE ISOLATED FORMbtFINAL FORM
  bqYU ISOLATED FORMbtFINAL FORMbqE ISOLATED FORMbsFINAL FORMbsINITIAL FORM
  qUIGHUR KIRGHIZ YEH WITH HAMZA ABOVE WITH ALEF MAKSURA ISOLATED FORMcsFINAL FORMcsINITIAL FORM
  iETTER FARSI YEH ISOLATED FORMyFINAL FORMyINITIAL FORMyMEDIAL FORM
  iIGATURE YEH WITH HAMZA ABOVE WITH JEEM ISOLATED FORMbqHAH ISOLATED FORMbqMEEM ISOLATED FORM
  bqALEF MAKSURA ISOLATED FORMbqYEH ISOLATED FORMqBEH WITH JEEM ISOLATED FORMzHAH ISOLATED FORM
  zKHAH ISOLATED FORMzMEEM ISOLATED FORMzALEF MAKSURA ISOLATED FORMzYEH ISOLATED FORM
  qTEH WITH JEEM ISOLATED FORMzHAH ISOLATED FORMzKHAH ISOLATED FORMzMEEM ISOLATED FORM
  zALEF MAKSURA ISOLATED FORMzYEH ISOLATED FORMrHEH WITH JEEM ISOLATED FORMbaMEEM ISOLATED FORM
  baALEF MAKSURA ISOLATED FORMbaYEH ISOLATED FORMqJEEM WITH HAH ISOLATED FORMbaMEEM ISOLATED FORM
  qHAH WITH JEEM ISOLATED FORMzMEEM ISOLATED FORMqKHAH WITH JEEM ISOLATED FORMbaHAH ISOLATED FORM
  baMEEM ISOLATED FORMqSEEN WITH JEEM ISOLATED FORMbaHAH ISOLATED FORMbaKHAH ISOLATED FORM
  baMEEM ISOLATED FORMrAD WITH HAH ISOLATED FORMzMEEM ISOLATED FORMqDAD WITH JEEM ISOLATED FORM
  zHAH ISOLATED FORMzKHAH ISOLATED FORMzMEEM ISOLATED FORMqTAH WITH HAH ISOLATED FORM
  zMEEM ISOLATED FORMqZAH WITH MEEM ISOLATED FORMqAIN WITH JEEM ISOLATED FORMzMEEM ISOLATED FORM
  qGHAIN WITH JEEM ISOLATED FORMbbMEEM ISOLATED FORMqFEH WITH JEEM ISOLATED FORMzHAH ISOLATED FORM
  zKHAH ISOLATED FORMzMEEM ISOLATED FORMzALEF MAKSURA ISOLATED FORMzYEH ISOLATED FORM
  qQAF WITH HAH ISOLATED FORMzMEEM ISOLATED FORMzALEF MAKSURA ISOLATED FORMzYEH ISOLATED FORM
  qKAF WITH ALEF ISOLATED FORMzJEEM ISOLATED FORMzHAH ISOLATED FORMzKHAH ISOLATED FORM
  zLAM ISOLATED FORMzMEEM ISOLATED FORMzALEF MAKSURA ISOLATED FORMzYEH ISOLATED FORM
  qLAM WITH JEEM ISOLATED FORMzHAH ISOLATED FORMzKHAH ISOLATED FORMzMEEM ISOLATED FORM
  zALEF MAKSURA ISOLATED FORMzYEH ISOLATED FORMqMEEM WITH JEEM ISOLATED FORMbaHAH ISOLATED FORM
  baKHAH ISOLATED FORMbaMEEM ISOLATED FORMbaALEF MAKSURA ISOLATED FORMbaYEH ISOLATED FORM
  qNOON WITH JEEM ISOLATED FORMbaHAH ISOLATED FORMbaKHAH ISOLATED FORMbaMEEM ISOLATED FORM
  baALEF MAKSURA ISOLATED FORMbaYEH ISOLATED FORMqHEH WITH JEEM ISOLATED FORMzMEEM ISOLATED FORM
  zALEF MAKSURA ISOLATED FORMzYEH ISOLATED FORMqYEH WITH JEEM ISOLATED FORMzHAH ISOLATED FORM
  zKHAH ISOLATED FORMzMEEM ISOLATED FORMzALEF MAKSURA ISOLATED FORMzYEH ISOLATED FORM
  qTHAL WITH SUPERSCRIPT ALEF ISOLATED FORMqREH WITH SUPERSCRIPT ALEF ISOLATED FORM
  qALEF MAKSURA WITH SUPERSCRIPT ALEF ISOLATED FORMqSHADDA WITH DAMMATAN ISOLATED FORM
  bcKASRATAN ISOLATED FORMbcFATHA ISOLATED FORMbcDAMMA ISOLATED FORMbcKASRA ISOLATED FORM
  bcSUPERSCRIPT ALEF ISOLATED FORMqYEH WITH HAMZA ABOVE WITH REH FINAL FORMbqZAIN FINAL FORM
  bqMEEM FINAL FORMbqNOON FINAL FORMbqALEF MAKSURA FINAL FORMbqYEH FINAL FORM
  qBEH WITH REH FINAL FORMzZAIN FINAL FORMzMEEM FINAL FORMzNOON FINAL FORMzALEF MAKSURA FINAL FORM
  zYEH FINAL FORMqTEH WITH REH FINAL FORMzZAIN FINAL FORMzMEEM FINAL FORMzNOON FINAL FORM
  zALEF MAKSURA FINAL FORMzYEH FINAL FORMrHEH WITH REH FINAL FORMbaZAIN FINAL FORMbaMEEM FINAL FORM
  baNOON FINAL FORMbaALEF MAKSURA FINAL FORMbaYEH FINAL FORMqFEH WITH ALEF MAKSURA FINAL FORM
  zYEH FINAL FORMqQAF WITH ALEF MAKSURA FINAL FORMzYEH FINAL FORMqKAF WITH ALEF FINAL FORM
  zLAM FINAL FORMzMEEM FINAL FORMzALEF MAKSURA FINAL FORMzYEH FINAL FORMqLAM WITH MEEM FINAL FORM
  zALEF MAKSURA FINAL FORMzYEH FINAL FORMqMEEM WITH ALEF FINAL FORMbaMEEM FINAL FORM
  qNOON WITH REH FINAL FORMbaZAIN FINAL FORMbaMEEM FINAL FORMbaNOON FINAL FORM
  baALEF MAKSURA FINAL FORMbaYEH FINAL FORMqALEF MAKSURA WITH SUPERSCRIPT ALEF FINAL FORM
  qYEH WITH REH FINAL FORMzZAIN FINAL FORMzMEEM FINAL FORMzNOON FINAL FORMzALEF MAKSURA FINAL FORM
  zYEH FINAL FORMzHAMZA ABOVE WITH JEEM INITIAL FORMbqHAH INITIAL FORMbqKHAH INITIAL FORM
  bqMEEM INITIAL FORMbqHEH INITIAL FORMqBEH WITH JEEM INITIAL FORMzHAH INITIAL FORM
  zKHAH INITIAL FORMzMEEM INITIAL FORMzHEH INITIAL FORMqTEH WITH JEEM INITIAL FORMzHAH INITIAL FORM
  zKHAH INITIAL FORMzMEEM INITIAL FORMzHEH INITIAL FORMrHEH WITH MEEM INITIAL FORM
  qJEEM WITH HAH INITIAL FORMbaMEEM INITIAL FORMqHAH WITH JEEM INITIAL FORMzMEEM INITIAL FORM
  qKHAH WITH JEEM INITIAL FORMbaMEEM INITIAL FORMqSEEN WITH JEEM INITIAL FORMbaHAH INITIAL FORM
  baKHAH INITIAL FORMbaMEEM INITIAL FORMrAD WITH HAH INITIAL FORMzKHAH INITIAL FORM
  zMEEM INITIAL FORMqDAD WITH JEEM INITIAL FORMzHAH INITIAL FORMzKHAH INITIAL FORMzMEEM INITIAL FORM
  qTAH WITH HAH INITIAL FORMqZAH WITH MEEM INITIAL FORMqAIN WITH JEEM INITIAL FORMzMEEM INITIAL FORM
  qGHAIN WITH JEEM INITIAL FORMbbMEEM INITIAL FORMqFEH WITH JEEM INITIAL FORMzHAH INITIAL FORM
  zKHAH INITIAL FORMzMEEM INITIAL FORMqQAF WITH HAH INITIAL FORMzMEEM INITIAL FORM
  qKAF WITH JEEM INITIAL FORMzHAH INITIAL FORMzKHAH INITIAL FORMzLAM INITIAL FORMzMEEM INITIAL FORM
  qLAM WITH JEEM INITIAL FORMzHAH INITIAL FORMzKHAH INITIAL FORMzMEEM INITIAL FORMzHEH INITIAL FORM
  qMEEM WITH JEEM INITIAL FORMbaHAH INITIAL FORMbaKHAH INITIAL FORMbaMEEM INITIAL FORM
  qNOON WITH JEEM INITIAL FORMbaHAH INITIAL FORMbaKHAH INITIAL FORMbaMEEM INITIAL FORM
  baHEH INITIAL FORMqHEH WITH JEEM INITIAL FORMzMEEM INITIAL FORMzSUPERSCRIPT ALEF INITIAL FORM
  qYEH WITH JEEM INITIAL FORMzHAH INITIAL FORMzKHAH INITIAL FORMzMEEM INITIAL FORMzHEH INITIAL FORM
  baAMZA ABOVE WITH MEEM MEDIAL FORMbqHEH MEDIAL FORMqBEH WITH MEEM MEDIAL FORMzHEH MEDIAL FORM
  qTEH WITH MEEM MEDIAL FORMzHEH MEDIAL FORMrHEH WITH MEEM MEDIAL FORMbaHEH MEDIAL FORM
  qSEEN WITH MEEM MEDIAL FORMbaHEH MEDIAL FORMrHEEN WITH MEEM MEDIAL FORMbbHEH MEDIAL FORM
  qKAF WITH LAM MEDIAL FORMzMEEM MEDIAL FORMqLAM WITH MEEM MEDIAL FORMqNOON WITH MEEM MEDIAL FORM
  baHEH MEDIAL FORMqYEH WITH MEEM MEDIAL FORMzHEH MEDIAL FORMqSHADDA WITH FATHA MEDIAL FORM
  bcDAMMA MEDIAL FORMbcKASRA MEDIAL FORMqTAH WITH ALEF MAKSURA ISOLATED FORMzYEH ISOLATED FORM
  qAIN WITH ALEF MAKSURA ISOLATED FORMzYEH ISOLATED FORMqGHAIN WITH ALEF MAKSURA ISOLATED FORM
  bbYEH ISOLATED FORMqSEEN WITH ALEF MAKSURA ISOLATED FORMbaYEH ISOLATED FORM
  rHEEN WITH ALEF MAKSURA ISOLATED FORMbbYEH ISOLATED FORMqHAH WITH ALEF MAKSURA ISOLATED FORM
  zYEH ISOLATED FORMqJEEM WITH ALEF MAKSURA ISOLATED FORMbaYEH ISOLATED FORM
  qKHAH WITH ALEF MAKSURA ISOLATED FORMbaYEH ISOLATED FORMqSAD WITH ALEF MAKSURA ISOLATED FORM
  zYEH ISOLATED FORMqDAD WITH ALEF MAKSURA ISOLATED FORMzYEH ISOLATED FORM
  qSHEEN WITH JEEM ISOLATED FORMbbHAH ISOLATED FORMbbKHAH ISOLATED FORMbbMEEM ISOLATED FORM
  bbREH ISOLATED FORMrEEN WITH REH ISOLATED FORMrAD WITH REH ISOLATED FORM
  qDAD WITH REH ISOLATED FORMqTAH WITH ALEF MAKSURA FINAL FORMzYEH FINAL FORM
  qAIN WITH ALEF MAKSURA FINAL FORMzYEH FINAL FORMqGHAIN WITH ALEF MAKSURA FINAL FORM
  bbYEH FINAL FORMqSEEN WITH ALEF MAKSURA FINAL FORMbaYEH FINAL FORM
  rHEEN WITH ALEF MAKSURA FINAL FORMbbYEH FINAL FORMqHAH WITH ALEF MAKSURA FINAL FORMzYEH FINAL FORM
  qJEEM WITH ALEF MAKSURA FINAL FORMbaYEH FINAL FORMqKHAH WITH ALEF MAKSURA FINAL FORM
  baYEH FINAL FORMqSAD WITH ALEF MAKSURA FINAL FORMzYEH FINAL FORMqDAD WITH ALEF MAKSURA FINAL FORM
  zYEH FINAL FORMqSHEEN WITH JEEM FINAL FORMbbHAH FINAL FORMbbKHAH FINAL FORMbbMEEM FINAL FORM
  bbREH FINAL FORMrEEN WITH REH FINAL FORMrAD WITH REH FINAL FORMqDAD WITH REH FINAL FORM
  qSHEEN WITH JEEM INITIAL FORMbbHAH INITIAL FORMbbKHAH INITIAL FORMbbMEEM INITIAL FORM
  rEEN WITH HEH INITIAL FORMrHEEN WITH HEH INITIAL FORMqTAH WITH MEEM INITIAL FORM
  qSEEN WITH JEEM MEDIAL FORMbaHAH MEDIAL FORMbaKHAH MEDIAL FORMrHEEN WITH JEEM MEDIAL FORM
  bbHAH MEDIAL FORMbbKHAH MEDIAL FORMqTAH WITH MEEM MEDIAL FORMqZAH WITH MEEM MEDIAL FORM
  qALEF WITH FATHATAN FINAL FORMbjISOLATED FORMaORNATE LEFT PARENTHESIShRIGHT PARENTHESIS
  aARABIC LIGATURE RAHIMAHU ALLAAHsDI ALLAAHU ANHbgAAbgUMbiAAbhNNAqSALLALLAAHU ALAYHI WA-AALIH
  qALAYHI AS-SALAAMwM AS-SALAAMxAA AS-SALAAMw AS-SALAATU WAS-SALAAMqQUDDISA SIRRAH
  qSALLALLAHU ALAYHI WAAALIHEE WA-SALLAMqALAYHAA AS-SALAAMqTABAARAKA WA-TAAALAAqRAHIMAHUM ALLAAH
  qTEH WITH JEEM WITH MEEM INITIAL FORMzHAH WITH JEEM FINAL FORMbnINITIAL FORMbiMEEM INITIAL FORM
  zKHAH WITH MEEM INITIAL FORMzMEEM WITH JEEM INITIAL FORMbjHAH INITIAL FORMbjKHAH INITIAL FORM
  qJEEM WITH MEEM WITH HAH FINAL FORMboINITIAL FORMqHAH WITH MEEM WITH YEH FINAL FORM
  bjALEF MAKSURA FINAL FORMqSEEN WITH HAH WITH JEEM INITIAL FORMbaJEEM WITH HAH INITIAL FORM
  bkALEF MAKSURA FINAL FORMbaMEEM WITH HAH FINAL FORMboINITIAL FORMbkJEEM INITIAL FORM
  bkMEEM FINAL FORMbpINITIAL FORMrAD WITH HAH WITH HAH FINAL FORMbmINITIAL FORM
  zMEEM WITH MEEM FINAL FORMrHEEN WITH HAH WITH MEEM FINAL FORMbpINITIAL FORM
  bbJEEM WITH YEH FINAL FORMbbMEEM WITH KHAH FINAL FORMbqINITIAL FORMblMEEM FINAL FORMbqINITIAL FORM
  qDAD WITH HAH WITH ALEF MAKSURA FINAL FORMzKHAH WITH MEEM FINAL FORMboINITIAL FORM
  qTAH WITH MEEM WITH HAH FINAL FORMbnINITIAL FORMbjMEEM INITIAL FORMbjYEH FINAL FORM
  qAIN WITH JEEM WITH MEEM FINAL FORMzMEEM WITH MEEM FINAL FORMboINITIAL FORM
  bjALEF MAKSURA FINAL FORMqGHAIN WITH MEEM WITH MEEM FINAL FORMblYEH FINAL FORM
  blALEF MAKSURA FINAL FORMqFEH WITH KHAH WITH MEEM FINAL FORMboINITIAL FORM
  qQAF WITH MEEM WITH HAH FINAL FORMbjMEEM FINAL FORMqLAM WITH HAH WITH MEEM FINAL FORM
  biYEH FINAL FORMbiALEF MAKSURA FINAL FORMzJEEM WITH JEEM INITIAL FORMboFINAL FORM
  zKHAH WITH MEEM FINAL FORMboINITIAL FORMzMEEM WITH HAH FINAL FORMbnINITIAL FORM
  qMEEM WITH HAH WITH JEEM INITIAL FORMbjMEEM INITIAL FORMbjYEH FINAL FORM
  baJEEM WITH HAH INITIAL FORMbkMEEM INITIAL FORMbaKHAH WITH JEEM INITIAL FORMbkMEEM INITIAL FORM
  ba+3+JEEM WITH KHAH INITIAL FORMqHEH WITH MEEM WITH JEEM INITIAL FORMbjMEEM INITIAL FORM
  qNOON WITH HAH WITH MEEM INITIAL FORMbjALEF MAKSURA FINAL FORMbaJEEM WITH MEEM FINAL FORM
  bpINITIAL FORMbkALEF MAKSURA FINAL FORMbaMEEM WITH YEH FINAL FORMbkALEF MAKSURA FINAL FORM
  qYEH WITH MEEM WITH MEEM FINAL FORMboINITIAL FORMqBEH WITH KHAH WITH YEH FINAL FORM
  qTEH WITH JEEM WITH YEH FINAL FORMbjALEF MAKSURA FINAL FORMzKHAH WITH YEH FINAL FORM
  bjALEF MAKSURA FINAL FORMzMEEM WITH YEH FINAL FORMbjALEF MAKSURA FINAL FORM
  qJEEM WITH MEEM WITH YEH FINAL FORMbaHAH WITH ALEF MAKSURA FINAL FORM
  baMEEM WITH ALEF MAKSURA FINAL FORMqSEEN WITH KHAH WITH ALEF MAKSURA FINAL FORM
  rAD WITH HAH WITH YEH FINAL FORMrHEEN WITH HAH WITH YEH FINAL FORM
  qDAD WITH HAH WITH YEH FINAL FORMqLAM WITH JEEM WITH YEH FINAL FORMzMEEM WITH YEH FINAL FORM
  qYEH WITH HAH WITH YEH FINAL FORMzJEEM WITH YEH FINAL FORMzMEEM WITH YEH FINAL FORM
  qMEEM WITH MEEM WITH YEH FINAL FORMqQAF WITH MEEM WITH YEH FINAL FORM
  qNOON WITH HAH WITH YEH FINAL FORMqQAF WITH MEEM WITH HAH INITIAL FORM
  qLAM WITH HAH WITH MEEM INITIAL FORMqAIN WITH MEEM WITH YEH FINAL FORM
  qKAF WITH MEEM WITH YEH FINAL FORMqNOON WITH JEEM WITH HAH INITIAL FORM
  qMEEM WITH KHAH WITH YEH FINAL FORMqLAM WITH JEEM WITH MEEM INITIAL FORM
  qKAF WITH MEEM WITH MEEM FINAL FORMqLAM WITH JEEM WITH MEEM FINAL FORM
  qNOON WITH JEEM WITH HAH FINAL FORMqJEEM WITH HAH WITH YEH FINAL FORM
  qHAH WITH JEEM WITH YEH FINAL FORMqMEEM WITH JEEM WITH YEH FINAL FORM
  qFEH WITH MEEM WITH YEH FINAL FORMqBEH WITH HAH WITH YEH FINAL FORM
  qKAF WITH MEEM WITH MEEM INITIAL FORMqAIN WITH JEEM WITH MEEM INITIAL FORM
  qSAD WITH MEEM WITH MEEM INITIAL FORMrEEN WITH KHAH WITH YEH FINAL FORM
  qNOON WITH JEEM WITH YEH FINAL FORMq+8+SALAAMUHU ALAYNAA
  t+21+LA USED AS KORANIC STOP SIGN ISOLATED FORMqQALA USED AS KORANIC STOP SIGN ISOLATED FORM
  qALLAH ISOLATED FORMrKBAR ISOLATED FORMqMOHAMMAD ISOLATED FORMqSALAM ISOLATED FORM
  qRASOUL ISOLATED FORMqALAYHE ISOLATED FORMqWASALLAM ISOLATED FORMqSALLA ISOLATED FORM
  vLLAHOU ALAYHE WASALLAMqJALLAJALALOUHOUaRIAL SIGNaARABIC LIGATURE BISMILLAH AR-RAHMAN AR-RAHEEM
  qSUBHAANAHU WA TAAALAAqAZZA WA JALLaVARIATION SELECTOR-1t2t3t4t5t6t7t8t9t10u1u2u3u4u5u6
  aPRESENTATION FORM FOR VERTICAL COMMAbfIDEOGRAPHIC COMMAbrFULL STOPbfCOLONbfSEMICOLON
  bfEXCLAMATION MARKbfQUESTION MARKbfLEFT WHITE LENTICULAR BRACKETbfRIGHT WHITE LENTICULAR BRAKCET
  bfHORIZONTAL ELLIPSISa+7+COMBINING LIGATURE LEFT HALFtRIGHT HALFkDOUBLE TILDE LEFT HALFxRIGHT HALF
  kMACRON LEFT HALFrRIGHT HALFkCONJOINING MACRONkLIGATURE LEFT HALF BELOWtRIGHT HALF BELOW
  kTILDE LEFT HALF BELOWqRIGHT HALF BELOWkMACRON LEFT HALF BELOWrRIGHT HALF BELOW
  kCONJOINING MACRON BELOWlYRILLIC TITLO LEFT HALFzRIGHT HALF
  aPRESENTATION FORM FOR VERTICAL TWO DOT LEADERbfEM DASHbgN DASHbfLOW LINEbfWAVY LOW LINE
  bfLEFT PARENTHESISbfRIGHT PARENTHESISbfLEFT CURLY BRACKETbfRIGHT CURLY BRACKET
  bfLEFT TORTOISE SHELL BRACKETbfRIGHT TORTOISE SHELL BRACKETbfLEFT BLACK LENTICULAR BRACKET
  bfRIGHT BLACK LENTICULAR BRACKETbfLEFT DOUBLE ANGLE BRACKETbfRIGHT DOUBLE ANGLE BRACKET
  bfLEFT ANGLE BRACKETbfRIGHT ANGLE BRACKETbfLEFT CORNER BRACKETbfRIGHT CORNER BRACKET
  bfLEFT WHITE CORNER BRACKETbfRIGHT WHITE CORNER BRACKETaSESAME DOTaWHITE SESAME DOT
  aPRESENTATION FORM FOR VERTICAL LEFT SQUARE BRACKETbfRIGHT SQUARE BRACKETaDASHED OVERLINE
  aCENTRELINE OVERLINEaWAVY OVERLINEaDOUBLE WAVY OVERLINEbASHED LOW LINEaCENTRELINE LOW LINE
  aWAVY LOW LINEaSMALL COMMAgIDEOGRAPHIC COMMAgFULL STOPg+2+SEMICOLONgCOLONgQUESTION MARK
  gEXCLAMATION MARKhM DASHgLEFT PARENTHESISgRIGHT PARENTHESISgLEFT CURLY BRACKETgRIGHT CURLY BRACKET
  gLEFT TORTOISE SHELL BRACKETgRIGHT TORTOISE SHELL BRACKETgNUMBER SIGNgAMPERSANDhSTERISKgPLUS SIGN
  gHYPHEN-MINUSgLESS-THAN SIGNgGREATER-THAN SIGNgEQUALS SIGNg+2+REVERSE SOLIDUSgDOLLAR SIGN
  gPERCENT SIGNgCOMMERCIAL ATa+5+ARABIC FATHATAN ISOLATED FORMhTATWEEL WITH FATHATAN ABOVE
  hDAMMATAN ISOLATED FORMhTAIL FRAGMENThKASRATAN ISOLATED FORMh+2+FATHA ISOLATED FORMnMEDIAL FORM
  hDAMMA ISOLATED FORMnMEDIAL FORMhKASRA ISOLATED FORMnMEDIAL FORMhSHADDA ISOLATED FORMoMEDIAL FORM
  iUKUN ISOLATED FORMnMEDIAL FORMhLETTER HAMZA ISOLATED FORMoALEF WITH MADDA ABOVE ISOLATED FORM
  bkFINAL FORMyHAMZA ABOVE ISOLATED FORMbkFINAL FORMoWAW WITH HAMZA ABOVE ISOLATED FORMbjFINAL FORM
  oALEF WITH HAMZA BELOW ISOLATED FORMbkFINAL FORMoYEH WITH HAMZA ABOVE ISOLATED FORMbjFINAL FORM
  bjINITIAL FORMbjMEDIAL FORMoALEF ISOLATED FORMtFINAL FORMoBEH ISOLATED FORMsFINAL FORM
  sINITIAL FORMsMEDIAL FORMoTEH MARBUTA ISOLATED FORMbaFINAL FORMsISOLATED FORMsFINAL FORM
  sINITIAL FORMsMEDIAL FORMpHEH ISOLATED FORMtFINAL FORMtINITIAL FORMtMEDIAL FORMoJEEM ISOLATED FORM
  tFINAL FORMtINITIAL FORMtMEDIAL FORMoHAH ISOLATED FORMsFINAL FORMsINITIAL FORMsMEDIAL FORM
  oKHAH ISOLATED FORMtFINAL FORMtINITIAL FORMtMEDIAL FORMoDAL ISOLATED FORMsFINAL FORM
  oTHAL ISOLATED FORMtFINAL FORMoREH ISOLATED FORMsFINAL FORMoZAIN ISOLATED FORMtFINAL FORM
  oSEEN ISOLATED FORMtFINAL FORMtINITIAL FORMtMEDIAL FORMpHEEN ISOLATED FORMuFINAL FORMuINITIAL FORM
  uMEDIAL FORMpAD ISOLATED FORMsFINAL FORMsINITIAL FORMsMEDIAL FORMoDAD ISOLATED FORMsFINAL FORM
  sINITIAL FORMsMEDIAL FORMoTAH ISOLATED FORMsFINAL FORMsINITIAL FORMsMEDIAL FORMoZAH ISOLATED FORM
  sFINAL FORMsINITIAL FORMsMEDIAL FORMoAIN ISOLATED FORMsFINAL FORMsINITIAL FORMsMEDIAL FORM
  oGHAIN ISOLATED FORMuFINAL FORMuINITIAL FORMuMEDIAL FORMoFEH ISOLATED FORMsFINAL FORMsINITIAL FORM
  sMEDIAL FORMoQAF ISOLATED FORMsFINAL FORMsINITIAL FORMsMEDIAL FORMoKAF ISOLATED FORMsFINAL FORM
  sINITIAL FORMsMEDIAL FORMoLAM ISOLATED FORMsFINAL FORMsINITIAL FORMsMEDIAL FORMoMEEM ISOLATED FORM
  tFINAL FORMtINITIAL FORMtMEDIAL FORMoNOON ISOLATED FORMtFINAL FORMtINITIAL FORMtMEDIAL FORM
  oHEH ISOLATED FORMsFINAL FORMsINITIAL FORMsMEDIAL FORMoWAW ISOLATED FORMsFINAL FORM
  oALEF MAKSURA ISOLATED FORMbbFINAL FORMoYEH ISOLATED FORMsFINAL FORMsINITIAL FORMsMEDIAL FORM
  iIGATURE LAM WITH ALEF WITH MADDA ABOVE ISOLATED FORMbvFINAL FORMbjHAMZA ABOVE ISOLATED FORM
  bvFINAL FORMbpBELOW ISOLATED FORMbvFINAL FORMbeISOLATED FORMbeFINAL FORM
  a+3+ZERO WIDTH NO-BREAK SPACEa+2+FULLWIDTH EXCLAMATION MARKkQUOTATION MARKkNUMBER SIGNkDOLLAR SIGN
  kPERCENT SIGNkAMPERSANDlPOSTROPHEkLEFT PARENTHESISkRIGHT PARENTHESISkASTERISKkPLUS SIGNkCOMMA
  kHYPHEN-MINUSkFULL STOPkSOLIDUSkDIGIT ZEROqONEqTWOrHREEqFOURrIVEqSIXrEVENqEIGHTqNINEkCOLON
  kSEMICOLONkLESS-THAN SIGNkEQUALS SIGNkGREATER-THAN SIGNkQUESTION MARKkCOMMERCIAL AT
  kLATIN CAPITAL LETTER AbfBbfCbfDbfEbfFbfGbfHbfIbfJbfKbfLbfMbfNbfObfPbfQbfRbfSbfTbfUbfVbfWbfXbfYbfZ
  lEFT SQUARE BRACKETkREVERSE SOLIDUSlIGHT SQUARE BRACKETkCIRCUMFLEX ACCENTkLOW LINEkGRAVE ACCENT
  kLATIN SMALL LETTER AbdBbdCbdDbdEbdFbdGbdHbdIbdJbdKbdLbdMbdNbdObdPbdQbdRbdSbdTbdUbdVbdWbdXbdYbdZ
  lEFT CURLY BRACKETkVERTICAL LINEkRIGHT CURLY BRACKETkTILDEkLEFT WHITE PARENTHESIS
  kRIGHT WHITE PARENTHESISaHALFWIDTH IDEOGRAPHIC FULL STOPkLEFT CORNER BRACKETkRIGHT CORNER BRACKET
  kIDEOGRAPHIC COMMAkKATAKANA MIDDLE DOTtLETTER WObaSMALL AbgIbgUbgEbgObgYAbhUbhObgTU
  s-HIRAGANA PROLONGED SOUND MARKs LETTER AbaIbaUbaEbaObaKAbbIbbUbbEbbObaSAbbIbbUbbEbbObaTAbbIbbUbbE
  bbObaNAbbIbbUbbEbbObaHAbbIbbUbbEbbObaMAbbIbbUbbEbbObaYAbbUbbObaRAbbIbbUbbEbbObaWAbaN
  tVOICED SOUND MARKtSEMI-VOICED SOUND MARKkHANGUL FILLERrLETTER KIYEOKySSANGKIYEOKyKIYEOK-SIOS
  yNIEUNbd-CIEUCbeHIEUHyTIKEUTySSANGTIKEUTyRIEULbd-KIYEOKbeMIEUMbePIEUPbeSIOSbeTHIEUTHbePHIEUPH
  beHIEUHyMIEUMyPIEUPySSANGPIEUPyPIEUP-SIOSySIOSzSANGSIOSyIEUNGyCIEUCySSANGCIEUCyCHIEUCHyKHIEUKH
  yTHIEUTHyPHIEUPHyHIEUHy+4+AzEyYAbaEyEOz,y+3+YEOba,yOyWAbaEyOEy+3+YOyUyWEOba,zIyYUy+3+EUyYIyI
  a+4+FULLWIDTH CENT SIGNkPOUND SIGNkNOT SIGNkMACRONkBROKEN BARkYEN SIGNkWON SIGN
  a+2+HALFWIDTH FORMS LIGHT VERTICALkLEFTWARDS ARROWkUPWARDS ARROWkRIGHTWARDS ARROWkDOWNWARDS ARROW
  kBLACK SQUAREkWHITE CIRCLEa+b+INTERLINEAR ANNOTATION ANCHORxSEPARATORxTERMINATOR
  aOBJECT REPLACEMENT CHARACTERaREPLACEMENT CHARACTER
  "

end BoundQuery.Text.CharacterName
