/-!
# Names of characters from C to D

An outline in words: a lower-case letter starts each name and says how many
words the name shares with the one before it, `a` for none, `b` for one and so
on. The words that it does not share follow.
-/

namespace SecurityRules.CharacterName

def namesFromCToD : String :=
  "aCACTUS aCADA UNA aCADUCEUS aCALENDAR aCALL ME HAND aCAMERA bWITH FLASH aCAMPING aCAN
    aCANADIAN SYLLABICS A cAA cAAI cAAY cAI cAIVILIK B cAN cATHAPASCAN M dS cAY cBEAVER DENE L
    eR cBIBLE-CREE Y cBLACKFOOT A dE dI dKA dKE dKI dKO dNA dNE dNI dNO dO dS dW dWA dWE dWI dWO
    cC cCA cCAA cCAAI cCARRIER CHA dCHE dCHEE dCHI dCHO dCHU dDEE dDENE GEE dDENTAL S dDI dDLA
    dDLE dDLEE dDLI dDLO dDLU dDZA dDZE dDZEE dDZI dDZO dDZU dEE dGA dGAA dGE dGEE dGHA dGHE
    dGHEE dGHI dGHO dGHU dGI dGO dGU dGWA dGWU dH dHEE dHI dHWA dHWE dHWEE dHWI dHWO dHWU dI
    dINITIAL Z dJA dJE dJEE dJI dJJA dJJE dJJEE dJJI dJJO dJJU dJO dJU dJWA dKHA dKHE dKHEE dKHI
    dKHO dKHU dKK dKKA dKKE dKKEE dKKI dKKO dKKU dLA dLE dLEE dLHA dLHE dLHEE dLHI dLHO dLHU dLI
    dLO dLU dMA dME dMEE dMI dMO dMU dNA dNE dNEE dNG dNI dNO dNU dP dPA dPE dPEE dPI dPO dPU
    dRA dRE dREE dRI dRO dRU dSA dSE dSEE dSH dSHA dSHE dSHEE dSHI dSHO dSHU dSI dSO dSU dTHA
    dTHE dTHEE dTHI dTHO dTHU dTLA dTLE dTLEE dTLHA dTLHE dTLHEE dTLHI dTLHO dTLHU dTLI dTLO
    dTLU dTSA dTSE dTSEE dTSI dTSO dTSU dTTA dTTE dTTEE dTTI dTTO dTTSA dTTSE dTTSEE dTTSI dTTSO
    dTTSU dTTU dWA dWE dWEE dWI dWO dWU dYA dYE dYEE dYI dYO dYU dZ dZA dZE dZEE dZI dZO dZU cCE
    cCHI SIGN cCI cCII cCO cCOO cCWA cCWAA cCWE cCWI cCWII cCWO cCWOO cE cEASTERN W cEN cF cFA
    cFAA cFAAI cFE cFI cFII cFINAL ACUTE dBOTTOM HALF RING dDOUBLE ACUTE eSHORT VERTICAL STROKES
    dDOWN TACK dGRAVE dMIDDLE DOT dPLUS dRAISED DOT dRIGHT HALF RING dRING dSHORT HORIZONTAL
    STROKE dSMALL RING dTOP HALF RING cFO cFOO cFULL STOP cFWAA cGLOTTAL STOP cHK cHYPHEN cI cII
    cIN cK cKA cKAA cKAAI cKAY cKE cKI cKII cKO cKOO cKW cKWA cKWAA cKWAY cKWE cKWI cKWII cKWO
    cKWOO cL cLA cLAA cLAAI cLAY cLE cLH cLHA cLHAA cLHI cLHII cLHO cLHOO cLI cLII cLO cLOO cLWA
    cLWAA cLWE cLWI cLWII cLWO cLWOO cM cMA cMAA cMAAI cMAY cME cMEDIAL L dR cMH cMI cMII cMO
    cMOO cMOOSE-CREE SK cMWA cMWAA cMWE cMWI cMWII cMWO cMWOO cN cN-CREE THE dTHI dTHII cNA cNAA
    cNAAI cNASKAPI CWAA dKWAA dMWAA dNWAA dS-W dSCWA dSKW dSKWA dSPWA dSTWA dSWAA dTWAA dWAA
    dWOO dYWAA cNATTILIK HA dHAA dHI dHII dHO dHOO dSHRA dSHRAA dSHRI dSHRII dSHRO dSHROO cNAY
    cNE cNG cNGA cNGAA cNGAAI cNGAI cNGI cNGII cNGO cNGOO cNH cNI cNII cNNG cNNGA cNNGAA cNNGI
    cNNGII cNNGO cNNGOO cNO cNOO cNOY cNUNAVIK H dHA dHAA dHE dHI dHII dHO dHOO cNUNAVUT H cNWA
    cNWAA cNWE cNWI cNWII cNWO cNWOO cO cOJIBWAY C dK dM dN dNWI dNWII dNWO dNWOO dP dS dSH dT
    cON cOO cOY cP cPA cPAA cPAAI cPAY cPE cPI cPII cPO cPOO cPOY cPWA cPWAA cPWE cPWI cPWII
    cPWO cPWOO cPWOY cQ cQA cQAA cQAAI cQAI cQI cQII cQO cQOO cR cR-CREE RE dRWE cRA cRAA cRAAI
    cRAY cRE cRI cRII cRO cROO cRWA cRWAA cRWEE cRWI cRWII cRWO cRWOO cS cSA cSAA cSAAI cSAY
    cSAYISI HA dHE dHI dHO dHOO dJI dJU dJUU dM dSHA dSHE dSHI dSHO dSHOO dSHWE dTH dYI cSE cSH
    cSHA cSHAA cSHAY cSHE cSHI cSHII cSHO cSHOO cSHOY cSHWA cSHWAA cSHWE cSHWI cSHWII cSHWO
    cSHWOO cSHWOY cSI cSII cSO cSOO cSOUTH-SLAVEY KAH dKEH dKIH dKOH cSOY cSPA cSPE cSPI cSPO
    cSW cSWA cSWAA cSWE cSWI cSWII cSWO cSWOO cT cTA cTAA cTAAI cTAY cTE cTH cTH-CREE TH dTHA
    dTHAA dTHE dTHI dTHII dTHO dTHOO cTHA cTHAA cTHE cTHI cTHII cTHO cTHOO cTHWA cTHWAA cTHWE
    cTI cTII cTLHA cTLHE cTLHI cTLHO cTLHOO cTLHWE cTO cTOO cTTA cTTE cTTH cTTHA cTTHAA cTTHE
    cTTHI cTTHO cTTHOO cTTHWE cTTI cTTO cTWA cTWAA cTWE cTWI cTWII cTWO cTWOO cTYA cTYE cTYI
    cTYO cWA cWAA cWAY cWE cWEST-CREE CWA dCWAA dCWE dCWI dCWII dCWO dCWOO dFWAA dKWA dKWAA dKWE
    dKWI dKWII dKWO dKWOO dL dLA dLAA dLE dLO dLOO dLWA dLWAA dLWE dLWI dLWII dLWO dLWOO dM dMWA
    dMWAA dMWE dMWI dMWII dMWO dMWOO dNWA dNWAA dNWE dP dPWA dPWAA dPWE dPWI dPWII dPWO dPWOO dR
    dRA dRE dRI dRO dRWAA dSHWA dSHWAA dSHWE dSHWI dSHWII dSHWO dSHWOO dSWA dSWAA dSWE dSWI
    dSWII dSWO dSWOO dTHWAA dTWA dTWAA dTWE dTWI dTWII dTWO dTWOO dWA dWAA dWE dWI dWII dWO dWOO
    dY dYWA dYWAA dYWE dYWI dYWII dYWO dYWOO cWESTERN W cWI cWII cWO cWOO cWOODS-CREE FINAL TH
    dTH dTHA dTHE dTHI dTHO dTHWA dTHWAA dTHWEE dTHWI dTHWII dTHWO dTHWOO cY cY-CREE COO dKOO
    dLOO dMOO dNOO dOO dPOO dPWAA dSOO dTOO dW dYOO cYA cYAA cYAAI cYAY cYE cYI cYII cYO cYOO
    cYOY cYWA cYWAA cYWE cYWI cYWII cYWO cYWOO aCANCEL bCHARACTER bTAG aCANCELLATION X aCANCER
    aCANDLE aCANDY aCANNED FOOD aCANOE aCAPITULUM aCAPRICORN aCAR SLIDING aCARD FILE BOX bINDEX
    cDIVIDERS aCARE OF aCARET bINSERTION POINT aCARIAN LETTER A cA2 cB cC-18 cC-39 cD cD2 cE cE2
    cG cG2 cI cII cK cK2 cL cLD cLD2 cM cMB cMB2 cMB3 cMB4 cN cND cNG cNN cO cP cP2 cQ cR cRR cS
    cSH cSH2 cSS cST cST2 cT cTT cTT2 cU cUU cUUU cUUU2 cUUU3 cUUUU cX aCARON aCAROUSEL HORSE
    aCARP STREAMER aCARPENTRY SAW aCARRIAGE RETURN aCARROT aCASTLE aCAT bFACE cWITH TEARS OF JOY
    dWRY SMILE aCAUCASIAN ALBANIAN CITATION MARK cLETTER ALT dAOR dBET dCAR dCAYN dCHA dCHAT
    dCHI dCHOY dCYAW dCYAY dDAT dDYAN dDZAY dDZYAY dEB dEYN dFAM dGHEYS dGIM dHEYT dINYA dIRB
    dIWN dJAYN dJHOX dKAR dKIW dLAN dLYIT dMAQ dNOWC dON dPEN dPIWR dQAR dQAY dRAT dSEYK dSHA
    dSHAK dSHOY dTAS dTIWR dTYAY dVEYZ dXEYN dYAYD dYOWD dZARL dZHA dZHIL aCAUTION SIGN aCCH
    aCEDI SIGN aCEDILLA aCELTIC CROSS aCENT SIGN aCENTRE LINE SYMBOL aCENTRELINE LOW LINE
    bOVERLINE aCERES aCGJ aCHAINS aCHAIR aCHAKMA AU MARK bDANDA bDIGIT EIGHT cFIVE cFOUR cNINE
    cONE cSEVEN cSIX cTHREE cTWO cZERO bDOUBLE DANDA bLETTER AA cBAA cBHAA cCAA cCHAA cDAA cDDAA
    cDDHAA cDHAA cE cGAA cGHAA cHAA cI cJAA cJHAA cKAA cKHAA cLAA cLHAA cMAA cNAA cNGAA cNNAA
    cNYAA cPAA cPHAA cRAA cSAA cTAA cTHAA cTTAA cTTHAA cU cVAA cWAA cYAA cYYAA bMAAYYAA bO MARK
    bQUESTION MARK bSECTION MARK bSIGN ANUSVARA cCANDRABINDU cVISARGA bVIRAMA bVOWEL SIGN A dAA
    dAI dAU dE dEI dI dII dO dOI dU dUU aCHAM CONSONANT SIGN FINAL H eM eNG dLA dRA dWA dYA
    bDIGIT EIGHT cFIVE cFOUR cNINE cONE cSEVEN cSIX cTHREE cTWO cZERO bLETTER A cAI cBA cBBA
    cBHA cCHA cCHHA cDA cDDA cDHA cE cFINAL CH dG dK dL dN dNG dP dR dSS dT dY cGA cGHA cHA cI
    cJA cJHA cKA cKHA cLA cMA cMUE cNA cNGA cNGUE cNHA cNHJA cNHUE cNUE cO cPA cPHA cPPA cRA cSA
    cSSA cTA cTHA cU cVA cYA bPUNCTUATION DANDA cDOUBLE DANDA cSPIRAL cTRIPLE DANDA bVOWEL SIGN
    AA dAI dAU dEI dI dII dO dOE dU dUE aCHARACTER TABULATION cSET cWITH JUSTIFICATION bTIE
    aCHART WITH DOWNWARDS TREND cUPWARDS TREND eAND YEN SIGN aCHECK MARK aCHECKER BOARD cFILL
    aCHEERING MEGAPHONE aCHEESE WEDGE aCHEQUERED FLAG aCHEROKEE LETTER A cDA cDE cDI cDLA cDO
    cDU cDV cE cGA cGE cGI cGO cGU cGV cHA cHE cHI cHNA cHO cHU cHV cI cKA cLA cLE cLI cLO cLU
    cLV cMA cME cMI cMO cMU cMV cNA cNAH cNE cNI cNO cNU cNV cO cQUA cQUE cQUI cQUO cQUU cQUV cS
    cSA cSE cSI cSO cSU cSV cTA cTE cTI cTLA cTLE cTLI cTLO cTLU cTLV cTSA cTSE cTSI cTSO cTSU
    cTSV cU cV cWA cWE cWI cWO cWU cWV cYA cYE cYI cYO cYU cYV bSMALL LETTER A dDA dDE dDI dDLA
    dDO dDU dDV dE dGA dGE dGI dGO dGU dGV dHA dHE dHI dHNA dHO dHU dHV dI dKA dLA dLE dLI dLO
    dLU dLV dMA dME dMI dMO dMU dMV dNA dNAH dNE dNI dNO dNU dNV dO dQUA dQUE dQUI dQUO dQUU
    dQUV dS dSA dSE dSI dSO dSU dSV dTA dTE dTI dTLA dTLE dTLI dTLO dTLU dTLV dTSA dTSE dTSI
    dTSO dTSU dTSV dU dV dWA dWE dWI dWO dWU dWV dYA dYE dYI dYO dYU dYV aCHERRIES aCHERRY
    BLOSSOM aCHESTNUT aCHI RHO aCHICKEN aCHILD aCHILDREN CROSSING aCHIPMUNK aCHIRON aCHOCOLATE
    BAR aCHOPSTICKS aCHORASMIAN LETTER ALEPH cAYIN cBETH cCURLED WAW cDALETH cGIMEL cHE cHETH
    cKAPH cLAMEDH cMEM cNUN cPE cRESH cSAMEKH cSHIN cSMALL ALEPH cTAW cWAW cYODH cZAYIN bNUMBER
    FOUR cONE dHUNDRED cTEN cTHREE cTWENTY cTWO aCHRISTMAS TREE aCHURCH aCINEMA aCIRCLE DIVIDED
    BY HORIZONTAL BAR AND TOP HALF DIVIDED BY VERTICAL BAR bWITH ALL BUT UPPER LEFT QUADRANT
    BLACK cHORIZONTAL BAR cLEFT HALF BLACK cLOWER HALF BLACK cRIGHT HALF BLACK cSMALL CIRCLE TO
    THE RIGHT cSUPERIMPOSED X cTWO HORIZONTAL STROKES TO THE RIGHT cUPPER HALF BLACK dRIGHT
    QUADRANT BLACK cVERTICAL FILL aCIRCLED ANTICLOCKWISE ARROW bANTICLOCKWISE-ROTATED DIVISION
    SIGN bASTERISK OPERATOR bBOLD X bBULLET bC WITH OVERLAID BACKSLASH bCC bCD bCROSS FORMEE
    dWITH FOUR DOTS eTWO DOTS cPOMMEE bCROSSING LANES bDASH bDIGIT EIGHT cFIVE cFOUR cNINE cONE
    cSEVEN cSIX cTHREE cTWO cZERO bDIVISION SIGN cSLASH bDOLLAR SIGN WITH OVERLAID BACKSLASH
    bDOT OPERATOR bEQUALS bGREATER-THAN bHANGUL CHIEUCH dA cCIEUC dA cHIEUH dA cIEUNG dA dU
    cKHIEUKH dA cKIYEOK dA cMIEUM dA cNIEUN dA cPHIEUPH dA cPIEUP dA cRIEUL dA cSIOS dA cTHIEUTH
    dA cTIKEUT dA bHEAVY WHITE RIGHTWARDS ARROW bHORIZONTAL BAR WITH NOTCH bHUMAN FIGURE
    bIDEOGRAPH ACCEPT cADVANTAGE cALLIANCE cATTENTION cCENTRE cCONGRATULATION cCOPY cCORRECT
    cEARTH cEIGHT cENTERPRISE cEXCELLENT cFEMALE cFINANCIAL cFIRE cFIVE cFOUR cHAVE cHIGH cITEM
    cKINDERGARTEN cKOTO cLABOR cLEFT cLOW cMALE cMEDICINE cMETAL cMOON cNAME cNIGHT cNINE cONE
    cPRINT cQUESTION cRELIGION cRESOURCE cREST cRIGHT cSCHOOL cSECRET cSEVEN cSIX cSOCIETY
    cSPECIAL cSTOCK cSTUDY cSUITABLE cSUN cSUPERVISE cTEN cTHREE cTWO cWATER cWOOD bINFORMATION
    SOURCE bITALIC LATIN CAPITAL LETTER C fR bKATAKANA A cE cHA cHE cHI cHO cHU cI cKA cKE cKI
    cKO cKU cMA cME cMI cMO cMU cNA cNE cNI cNO cNU cO cRA cRE cRI cRO cRU cSA cSE cSI cSO cSU
    cTA cTE cTI cTO cTU cU cWA cWE cWI cWO cYA cYO cYU bKOREAN CHARACTER CHAMKO dJUEUI bLATIN
    CAPITAL LETTER A eB eC eD eE eF eG eH eI eJ eK eL eM eN eO eP eQ eR eS eT eU eV eW eX eY eZ
    cSMALL LETTER A eB eC eD eE eF eG eH eI eJ eK eL eM eN eO eP eQ eR eS eT eU eV eW eX eY eZ
    bLESS-THAN bMINUS bMULTIPLICATION SIGN WITH CIRCUMFLEX ACCENT bNUMBER EIGHTEEN cEIGHTY ON
    BLACK SQUARE cELEVEN cFIFTEEN cFIFTY dON BLACK SQUARE cFORTY dEIGHT dFIVE dFOUR dNINE dON
    BLACK SQUARE dONE dSEVEN dSIX dTHREE dTWO cFOURTEEN cNINETEEN cSEVENTEEN cSEVENTY ON BLACK
    SQUARE cSIXTEEN cSIXTY ON BLACK SQUARE cTEN dON BLACK SQUARE cTHIRTEEN cTHIRTY dEIGHT dFIVE
    dFOUR dNINE dON BLACK SQUARE dONE dSEVEN dSIX dTHREE dTWO cTWELVE cTWENTY dEIGHT dFIVE dFOUR
    dNINE dON BLACK SQUARE dONE dSEVEN dSIX dTHREE dTWO bOPEN CENTRE EIGHT POINTED STAR
    bPARALLEL bPERPENDICULAR bPLUS bPOSTAL MARK bREVERSE SOLIDUS bRING OPERATOR bSQUARE bTIMES
    bTRIANGLE cDOWN bVERTICAL BAR bWHITE BULLET cSTAR bWZ bX bZERO WITH SLASH aCIRCULATION
    FUNCTION aCIRCUMFLEX ACCENT aCIRCUS TENT aCITYSCAPE bAT DUSK aCJK RADICAL BAMBOO cBLUE cBOLT
    OF CLOTH cBONE cBOX cBRUSH ONE dTWO cC-SIMPLIFIED BIRD dCART dDRAGON dEAT dEVEN dFISH dFLY
    dFROG dGATE dGOLD dHORSE dLEAF dLONG dSALT dSEE dSHELL dSILK dSPEECH dTANNED LEATHER dTOOTH
    dTURTLE dWIND cCHOKE cCITY cCIVILIAN cCLIFF cCLOTHES cCOW cDEATH cDIVINATION cDOG cEAT ONE
    dTHREE dTWO cEWE cEYE cFIRE cFOOT cGHOST cGRASS ONE dTHREE dTWO cHAND cHEAD cHEART ONE dTWO
    cHORN cJ-SIMPLIFIED DRAGON dEVEN dTOOTH dTURTLE cJADE cKNIFE ONE dTWO cLAME FOUR dONE dTHREE
    dTWO cLONG ONE dTWO cMEAT cMESH cMOON cMORTAR cMOTHER cMOUND ONE dTWO cNET FOUR dONE dTHREE
    dTWO cOLD cPAW ONE dTWO cPERSON cRAIN cRAM cRAP cREPEAT cSEAL cSECOND ONE dTHREE dTWO cSHEEP
    cSILK cSIMPLIFIED HALF TREE TRUNK dHORN dWALK dWHEAT dYELLOW cSMALL ONE dTWO cSNAKE cSNOUT
    ONE dTWO cSPIRIT ONE dTWO cSUN cTABLE cTHREAD cTIGER cTURTLE cWALK ONE dTWO cWATER ONE dTWO
    cWEST ONE dTWO bSTROKE BXG cD cH cHG cHP cHPWG cHXWG cHZ cHZG cHZT cHZW cHZWG cHZZ cHZZP
    cHZZZ cHZZZG cN cP cPD cPG cPZ cQ cS cSG cSP cST cSW cSWG cSWZ cSZ cSZWG cSZZ cT cTN cWG cXG
    aCLAMSHELL MOBILE PHONE aCLAPPER BOARD aCLAPPING HANDS SIGN aCLASSICAL BUILDING aCLEAR
    SCREEN SYMBOL aCLINKING BEER MUGS bGLASSES aCLIPBOARD aCLOCK FACE EIGHT OCLOCK cEIGHT-THIRTY
    cELEVEN OCLOCK cELEVEN-THIRTY cFIVE OCLOCK cFIVE-THIRTY cFOUR OCLOCK cFOUR-THIRTY cNINE
    OCLOCK cNINE-THIRTY cONE OCLOCK cONE-THIRTY cSEVEN OCLOCK cSEVEN-THIRTY cSIX OCLOCK
    cSIX-THIRTY cTEN OCLOCK cTEN-THIRTY cTHREE OCLOCK cTHREE-THIRTY cTWELVE OCLOCK
    cTWELVE-THIRTY cTWO OCLOCK cTWO-THIRTY aCLOCKWISE CLOSED CIRCLE ARROW bCONTOUR INTEGRAL
    bDOWNWARDS AND UPWARDS OPEN CIRCLE ARROWS bGAPPED CIRCLE ARROW bINTEGRAL bOPEN CIRCLE ARROW
    bRIGHT AND LEFT SEMICIRCLE ARROWS bRIGHTWARDS AND LEFTWARDS OPEN CIRCLE ARROWS hWITH CIRCLED
    ONE OVERLAY bTOP SEMICIRCLE ARROW bTRIANGLE-HEADED OPEN CIRCLE ARROW aCLOSE UP aCLOSED BOOK
    bINTERSECTION WITH SERIFS bLOCK WITH KEY bMAILBOX WITH LOWERED FLAG dRAISED FLAG bSUBSET cOR
    EQUAL TO bSUPERSET cOR EQUAL TO bUMBRELLA bUNION WITH SERIFS eAND SMASH PRODUCT aCLOUD bWITH
    LIGHTNING cRAIN cSNOW cTORNADO aCLOWN FACE aCOAT aCOCKROACH aCOCKTAIL GLASS aCOCONUT aCOFFIN
    aCOIN aCOLLISION SYMBOL aCOLON bEQUALS bSIGN aCOMBINING ACUTE ACCENT dBELOW cTONE MARK
    bACUTE-GRAVE-ACUTE bACUTE-MACRON bALMOST EQUAL TO ABOVE eBELOW bANNUITY SYMBOL
    bANTICLOCKWISE ARROW ABOVE cRING OVERLAY bASTERISK ABOVE cBELOW bBINDU BELOW bBREVE cBELOW
    bBREVE-MACRON bBRIDGE ABOVE cBELOW bCANDRABINDU bCARON cBELOW bCEDILLA bCIRCUMFLEX ACCENT
    dBELOW bCLOCKWISE ARROW ABOVE cRING OVERLAY bCOMMA ABOVE dRIGHT cBELOW bCONJOINING MACRON
    dBELOW bCYRILLIC DASIA PNEUMATA cHUNDRED MILLIONS SIGN dTHOUSANDS SIGN cKAVYKA cLETTER A dBE
    dBIG YUS dCHE dDE dDJERV dEF dEL dEM dEN dER dES dES-TE dFITA dGHE dHA dHARD SIGN dI dIE
    dIOTIFIED A eBIG YUS eE dKA dLITTLE YUS dMONOGRAPH UK dO dOMEGA dPE dSHA dSHCHA dSOFT SIGN
    dTE dTSE dU dUKRAINIAN IE dVE dYAT dYERU dYI dYU dZE dZHE cMILLIONS SIGN cPALATALIZATION
    cPAYEROK cPOKRYTIE cPSILI PNEUMATA cTEN MILLIONS SIGN cTHOUSAND MILLIONS SIGN cTITLO dLEFT
    HALF dRIGHT HALF cVZMET bDELETION MARK bDEVANAGARI DIGIT EIGHT dFIVE dFOUR dNINE dONE dSEVEN
    dSIX dTHREE dTWO dZERO cLETTER A dKA dNA dPA dRA dU dVI cSIGN AVAGRAHA bDIAERESIS cBELOW
    bDIAERESIS-RING bDOT ABOVE dLEFT dRIGHT cBELOW dLEFT bDOTTED ACUTE ACCENT cGRAVE ACCENT
    bDOUBLE ACUTE ACCENT cBREVE dBELOW cCIRCUMFLEX ABOVE cGRAVE ACCENT cINVERTED BREVE eBELOW
    cLOW LINE cMACRON dBELOW cOPEN MARK BELOW cOVERLINE cPARENTHESES ABOVE cPLUS SIGN ABOVE
    eBELOW cRIGHTWARDS ARROW BELOW cRING BELOW cTILDE dLEFT HALF dRIGHT HALF cVERTICAL LINE
    ABOVE eBELOW dSTROKE OVERLAY bDOUBLED CIRCUMFLEX ACCENT bDOWN TACK BELOW bDOWNWARDS ARROW
    bENCLOSING CIRCLE dBACKSLASH cDIAMOND cKEYCAP cSCREEN cSQUARE cUPWARD POINTING TRIANGLE
    bEQUALS SIGN BELOW bFERMATA bFOUR DOTS ABOVE bGLAGOLITIC LETTER AZU dBIG YUS dBUKY dCHRIVI
    dDJERVI dDOBRO dFITA dFRITU dGLAGOLI dHERU dI dINITIAL IZHE dIOTATED BIG YUS eSMALL YUS
    dIZHE dKAKO dLJUDIJE dMYSLITE dNASHI dONU dPOKOJI dRITSI dSHA dSHTA dSLOVO dSMALL YUS dTSI
    dTVRIDO dUKU dVEDE dYATI dYERI dYERU dYESTU dYO dYU dZEMLJA dZHIVETE bGRANTHA DIGIT FIVE
    dFOUR dONE dSIX dTHREE dTWO dZERO cLETTER A dKA dNA dPA dVI bGRAPHEME JOINER bGRAVE ACCENT
    dBELOW cTONE MARK bGRAVE-ACUTE-GRAVE bGRAVE-MACRON bGREEK DIALYTIKA TONOS cKORONIS cMUSICAL
    PENTASEME dTETRASEME dTRISEME cPERISPOMENI cYPOGEGRAMMENI bHOMOTHETIC ABOVE bHOOK ABOVE
    bHORN bINFINITY bINVERTED BREVE dBELOW cBRIDGE BELOW cDOUBLE ARCH ABOVE eBELOW bIS BELOW
    bKATAKANA-HIRAGANA SEMI-VOICED SOUND MARK cVOICED SOUND MARK bKAVYKA ABOVE LEFT dRIGHT
    bLATIN LETTER SMALL CAPITAL G fL fM fN fR cSMALL LETTER A fWITH DIAERESIS eAE eALPHA eAO eAV
    eB eBETA eC fCEDILLA eD eE eESH eETH eF eFLATTENED OPEN A ABOVE eG eH eI eINSULAR D fG fR fT
    eK eL fWITH DOUBLE MIDDLE TILDE eLONG S eM eN eO fWITH DIAERESIS gLIGHT CENTRALIZATION
    STROKE eP eR fBELOW fROTUNDA eS eSCHWA eT eTURNED W BELOW eU fWITH DIAERESIS gLIGHT
    CENTRALIZATION STROKE eV eW fBELOW eX eZ bLEFT ANGLE ABOVE dBELOW cARROW ABOVE dBELOW
    cARROWHEAD ABOVE dBELOW cHALF RING ABOVE eBELOW cHARPOON ABOVE cPARENTHESIS ABOVE LEFT
    dBELOW LEFT cRIGHT ARROW ABOVE eBELOW cTACK BELOW bLEFTWARDS ARROW OVERLAY cHARPOON WITH
    BARB DOWNWARDS bLIGATURE LEFT HALF eBELOW cRIGHT HALF eBELOW bLIGHT CENTRALIZATION STROKE
    BELOW bLONG DOUBLE SOLIDUS OVERLAY cSOLIDUS OVERLAY cSTROKE OVERLAY cVERTICAL LINE OVERLAY
    bLOW LINE bMACRON cBELOW cLEFT HALF eBELOW cRIGHT HALF eBELOW bMACRON-ACUTE bMACRON-BREVE
    bMACRON-GRAVE bMINUS SIGN BELOW bNOT TILDE ABOVE bNUMBER SIGN ABOVE bOGONEK cABOVE bOLD
    PERMIC LETTER AN eDOI eNENOE eSII eZATA bOPEN MARK BELOW bOVERLINE bPALATALIZED HOOK BELOW
    bPARENTHESES ABOVE cBELOW cOVERLAY bPLUS SIGN ABOVE dBELOW bRETROFLEX HOOK BELOW bREVERSE
    SOLIDUS OVERLAY bREVERSED COMMA ABOVE bRIGHT ARROW ABOVE dBELOW cARROWHEAD ABOVE dAND DOWN
    ARROWHEAD BELOW eUP ARROWHEAD BELOW dBELOW cHALF RING ABOVE eBELOW cHARPOON ABOVE
    cPARENTHESIS ABOVE RIGHT dBELOW RIGHT cTACK BELOW bRIGHTWARDS HARPOON WITH BARB DOWNWARDS
    bRING ABOVE cBELOW cOVERLAY bSEAGULL BELOW bSHORT SOLIDUS OVERLAY cSTROKE OVERLAY cVERTICAL
    LINE OVERLAY bSNAKE BELOW bSQUARE BELOW cBRACKETS ABOVE bSTRONG CENTRALIZATION STROKE BELOW
    bSUSPENSION MARK bTHREE DOTS ABOVE bTILDE cBELOW cLEFT HALF BELOW cOVERLAY cRIGHT HALF BELOW
    bTRIPLE ACUTE ACCENT cDOT cUNDERDOT bTURNED COMMA ABOVE bUP TACK ABOVE dBELOW bUPWARDS ARROW
    BELOW bUR ABOVE bUS ABOVE bVERTICAL LINE ABOVE dBELOW cTILDE bWIDE BRIDGE ABOVE cINVERTED
    BRIDGE BELOW bWIGGLY LINE BELOW bX ABOVE cBELOW bX-X BELOW bZIGZAG ABOVE cBELOW aCOMET
    aCOMMA aCOMMERCIAL AT bMINUS SIGN aCOMPASS aCOMPLEMENT aCOMPOSITION SYMBOL aCOMPRESSION
    aCONFETTI BALL aCONFOUNDED FACE aCONFUSED FACE aCONGRUENT WITH DOT ABOVE aCONICAL TAPER
    aCONJUNCTION aCONSTRUCTION SIGN bWORKER aCONTAINS AS MEMBER cNORMAL SUBGROUP eOR EQUAL TO
    bWITH LONG HORIZONTAL STROKE cOVERBAR cVERTICAL BAR AT END OF HORIZONTAL STROKE aCONTINUOUS
    UNDERLINE SYMBOL aCONTOUR INTEGRAL aCONTROL KNOBS bSEQUENCE INTRODUCER aCONVENIENCE STORE
    aCOOKED RICE aCOOKIE aCOOKING aCOPTIC CAPITAL LETTER AKHMIMIC KHEI dALFA dBOHAIRIC KHEI
    dCROSSED SHEI dCRYPTOGRAMMIC EIE eGANGIA eNI eSHEI dDALDA dDEI dDIALECT-P ALEF eHORI eKAPA
    eNI dEIE dFEI dFI dGAMMA dGANGIA dHATE dHORI dIAUDA dKAPA dKHEI dKHI dKSI dL-SHAPED HA
    dLAULA dMI dNI dO dOLD COPTIC AIN fDJA fESH fGANGIA fHA fHAT fHEI fHORI fOOU fSHEI fSHIMA
    eNUBIAN NGI fNYI fSHIMA fWAU dOOU dPI dPSI dRO dSAMPI dSHEI dSHIMA dSIMA dSOU dTAU dTHETHE
    dUA dVIDA dZATA bCOMBINING NI ABOVE cSPIRITUS ASPER dLENIS bEPACT DIGIT EIGHT dFIVE dFOUR
    dNINE dONE dSEVEN dSIX dTHREE dTWO cNUMBER EIGHT HUNDRED dEIGHTY dFIFTY dFIVE HUNDRED dFORTY
    dFOUR HUNDRED dNINE HUNDRED dNINETY dONE HUNDRED dSEVEN HUNDRED dSEVENTY dSIX HUNDRED dSIXTY
    dTEN dTHIRTY dTHREE HUNDRED dTWENTY dTWO HUNDRED cTHOUSANDS MARK bFRACTION ONE HALF bFULL
    STOP bMORPHOLOGICAL DIVIDER bOLD NUBIAN DIRECT QUESTION MARK dFULL STOP dINDIRECT QUESTION
    MARK dVERSE DIVIDER bSMALL LETTER AKHMIMIC KHEI dALFA dBOHAIRIC KHEI dCROSSED SHEI
    dCRYPTOGRAMMIC EIE eGANGIA eNI eSHEI dDALDA dDEI dDIALECT-P ALEF eHORI eKAPA eNI dEIE dFEI
    dFI dGAMMA dGANGIA dHATE dHORI dIAUDA dKAPA dKHEI dKHI dKSI dL-SHAPED HA dLAULA dMI dNI dO
    dOLD COPTIC AIN fDJA fESH fGANGIA fHA fHAT fHEI fHORI fOOU fSHEI fSHIMA eNUBIAN NGI fNYI
    fSHIMA fWAU dOOU dPI dPSI dRO dSAMPI dSHEI dSHIMA dSIMA dSOU dTAU dTHETHE dUA dVIDA dZATA
    bSYMBOL KAI cKHI RO cMI RO cPI RO cSHIMA SIMA cSTAUROS cTAU RO aCOPYLEFT SYMBOL aCOPYRIGHT
    SIGN aCORAL aCORNISH VERSE DIVIDER aCORRESPONDS TO aCOUCH AND LAMP aCOUNTERBORE aCOUNTERSINK
    aCOUNTING ROD TENS DIGIT EIGHT eFIVE eFOUR eNINE eONE eSEVEN eSIX eTHREE eTWO cUNIT DIGIT
    EIGHT eFIVE eFOUR eNINE eONE eSEVEN eSIX eTHREE eTWO aCOUPLE WITH HEART aCOW bFACE aCR aCRAB
    aCREDIT CARD aCRESCENT MOON aCRICKET bBAT AND BALL aCROCODILE aCROISSANT aCROSS MARK bOF
    JERUSALEM cLORRAINE bPATTY WITH LEFT CROSSBAR dRIGHT CROSSBAR bPOMMEE cWITH HALF-CIRCLE
    BELOW aCROSSED FLAGS bNEGATIVE SQUARED LATIN CAPITAL LETTER P bSWORDS aCROSSING LANES aCROWN
    aCRUTCH aCRUZEIRO SIGN aCRYING CAT FACE bFACE aCRYSTAL BALL aCSI aCUBE ROOT aCUCUMBER
    aCUNEIFORM NUMERIC SIGN EIGHT ASH eDISH eGESH2 eSHAR2 eU fVARIANT FORM eVARIANT FORM USSU
    gUSSU3 dELAMITE FIFTY eFORTY eONE THIRD eTWO THIRDS dFIVE ASH fTENU eBAN2 fVARIANT FORM
    eBURU eDISH eGESH2 eGESHU eSHAR2 eSHARU eSIXTHS DISH eU fVARIANT FORM dFOUR ASH fTENU eBAN2
    fVARIANT FORM eBURU eDISH eGESH2 eGESHU eSHAR2 eSHARU eU fVARIANT FORM eVARIANT FORM LIMMU
    hA hB gLIMMU4 dNIGIDAESH dNIGIDAMIN dNINE ASH eDISH eGESH2 eSHAR2 eU fVARIANT FORM eVARIANT
    FORM ILIMMU hA gILIMMU3 gILIMMU4 dOLD ASSYRIAN ONE QUARTER gSIXTH dONE BAN2 eBURU eEIGHTH
    ASH eESHE3 eGESH2 eGESHU eHALF GUR eQUARTER ASH fGUR eSHARU eTHIRD DISH fVARIANT FORM A
    dSEVEN ASH eDISH eGESH2 eSHAR2 eU fVARIANT FORM eVARIANT FORM IMIN A hB gIMIN3 dSHAR2 TIMES
    GAL PLUS DISH hMIN dSIX ASH fTENU eDISH eGESH2 eSHAR2 eU fVARIANT FORM eVARIANT FORM ASH9
    dTHREE ASH fTENU eBAN2 eBURU fVARIANT FORM eDISH eGESH2 eGESHU eSHAR2 fVARIANT FORM eSHARU
    fVARIANT FORM eVARIANT FORM ESH16 gESH21 dTWO ASH fTENU eBAN2 eBURU eESHE3 eGESH2 eGESHU
    eSHAR2 eSHARU eTHIRDS DISH fVARIANT FORM A bPUNCTUATION SIGN DIAGONAL COLON eQUADCOLON
    eTRICOLON dOLD ASSYRIAN WORD DIVIDER dVERTICAL COLON bSIGN A dTIMES A eBAD eGAN2 TENU eHA
    eIGI eLAGAR GUNU eMUSH eSAG cA2 cAB dGUNU dTIMES ASH2 eDUN3 GUNU eGAL eGAN2 TENU eHA eIGI
    GUNU eIMIN eLAGAB eNUN fTENU eSHESH eSHU2 eU PLUS U PLUS U cAB2 dTIMES A eBALAG eGAN2 TENU
    eME PLUS EN eSHA3 eTAK4 cAD dTIMES ESH2 cAK dTIMES ERIN2 eSHITA PLUS GISH cAL dTIMES AL
    eDIM2 eGISH eHA eKAD3 eKI eSHE eUSH cALAN cALEPH cAMAR dTIMES KUG eSHE cAN dOVER AN dPLUS
    NAGA OPPOSING AN PLUS NAGA fSQUARED dTHREE TIMES cANSHE cAPIN cARAD dTIMES KUR cARKAB cASAL2
    cASH dKABA TENU dOVER ASH OVER ASH hCROSSING ASH OVER ASH OVER ASH fTUG2 OVER TUG2 TUG2 OVER
    TUG2 PAP dZIDA TENU cASH2 cASHGAB cBA cBAD dTIMES DISH TENU cBAG3 cBAHAR2 dTIMES AB2 eNI eZA
    cBAL dOVER BAL cBALAG cBAR cBARA2 cBI dTIMES A eGAR eIGI GUNU cBU dCROSSING BU dOVER BU AB
    fTIMES NA2 fUN cBULUG dOVER BULUG cBUR cBUR2 cDA dTIMES TAK4 cDAG dKISIM5 TIMES A PLUS MASH
    fAMAR fBALAG fBI fGA gPLUS MASH fGI fGIR2 fGUD fHA fIR gPLUS LU fKAK fLA fLU gPLUS MASH2
    fLUM fNE fPAP PLUS PAP fSI fTAK4 fU2 PLUS GIR2 hMASH fUSH dTIMES KUR cDAG3 cDAM cDAR cDARA3
    cDARA4 cDI cDIB cDIM dTIMES IGI eSHE eU U U cDIM2 dTIMES UD cDIN dKASKAL U GUNU DISH cDISH
    dPLUS SHU cDU dGUNU dOVER DU dSHESHIG cDUB dTIMES ESH2 eSHE cDUB2 cDUG dTIMES ANSHE eASH fAT
    LEFT eDIN eDUN eERIN2 eGA eGI eGIR2 GUNU eGISH eHA eHI eIGI GUNU eKASKAL eKUR eKUSHU2 fPLUS
    KASKAL eLAK-020 eLAM fTIMES KUR eLUH PLUS GISH eMASH eMES eMI eNI ePI eSHE eSI GUNU cDUGUD
    cDUH cDUN cDUN3 dGUNU eGUNU cDUN4 cDUR2 cE dOVER E NUN OVER NUN dTIMES PAP cE2 dTIMES A PLUS
    HA PLUS DA eGAR eKUR eMI ePAP eSAL eSHE eU cEDIN cEGIR cEL cEN dCROSSING EN dOPPOSING EN
    dSQUARED dTIMES GAN2 fTENU eME cEREN cERIN2 dX cESH2 dCROSSING ESH2 cEZEN dSHESHIG TIMES ASH
    fHI fIGI GUNU fLA fLAL fME fMES fSU dTIMES A fPLUS LAL hTIMES LAL eAN eBAD eDUN3 GUNU gGUNU
    eGUD eHA fGUNU eIGI GUNU eKASKAL fSQUARED eKU3 eLA eLAL TIMES LAL eLI eLU eSHE eSU eU2 eUD
    cGA dGUNU cGA2 dOVER GA2 dTIMES A PLUS DA PLUS HA gHA gIGI eAB2 TENU PLUS TAB eAN fPLUS KAK
    PLUS A eASH eASH2 fPLUS GAL eBAD eBAHAR2 eBAR PLUS RA eBUR fPLUS RA eDA eDI eDIM GUNU fTIMES
    SHE eDUB eDUG TIMES IGI GUNU gKASKAL eEL fPLUS LA eEN fTIMES GAN2 TENU eEREN eGA eGAN2 TENU
    eGAR fPLUS DI gNE eGI eGI4 fPLUS A eGIR2 PLUS SU eHA PLUS A gLU PLUS ESH2 eHAL fPLUS LA eHI
    PLUS LI eHUB2 eIGI GUNU eISH PLUS HU PLUS ASH eKAK eKASKAL eKID fPLUS LAL eKU3 PLUS AN
    eKUSHU2 PLUS KASKAL eLA eLAM fTIMES KUR eLUH eME PLUS EN eMI eMUSH eNE fPLUS E2 gGI eNUN
    fOVER NUN ePA eSAL eSAR eSHE fPLUS TUR eSHID eSHIM eSUM eTAK4 eU eUD fPLUS DU eZIZ2 cGABA
    dCROSSING GABA dROTATED NINETY DEGREES cGAD dOVER GAD GAR OVER GAR cGAL dGAD OVER GAD GAR
    OVER GAR cGALAM cGAM cGAN cGAN2 dCROSSING GAN2 dOVER GAN2 dTENU cGAR cGAR3 cGASHAN cGE22
    cGESHTIN dTIMES KUR eU cGI dCROSSING GI dTIMES E eU cGI4 dCROSSING GI4 dOVER GI4 cGIDIM cGIG
    cGIR2 dGUNU cGIR3 dTIMES A PLUS IGI eGAN2 TENU eIGI eLU PLUS IGI ePA cGISAL cGISH dCROSSING
    GISH dTENU dTIMES BAD eGISH CROSSING GISH eTAK4 cGU dCROSSING GU cGU2 dGUNU dTIMES IGI GUNU
    eKAK fTIMES IGI GUNU eNUN eSAL PLUS TUG2 cGUD dOVER GUD LUGAL dPLUS GISH TIMES TAK4 dTIMES A
    PLUS KUR eKUR cGUL cGUM dTIMES SHE cGUR cGUR7 cGURUN cGURUSH cHA dGUNU dTENU eGUNU cHAL cHI
    dTIMES ASH fOVER HI TIMES ASH eASH2 eBAD eDISH eGAD eKIN eNUN eSHE eU cHU cHUB2 dTIMES AN
    eHAL eKASKAL eLISH eUD cHUL2 cHUSH cI dA cIB cIDIM dOVER IDIM BUR fSQUARED cIG cIGI dDIB
    dGUNU dOVER IGI SHIR OVER SHIR UD OVER UD dRI cIL dTIMES GAN2 TENU cIL2 cIM dCROSSING IM
    dOPPOSING IM dSQUARED dTIMES TAK4 cIMIN cIN cIR cISH cKA dTIMES A eAD fPLUS KU3 eANSHE eASH2
    eASH3 eBAD eBALAG eBAR eBI eBU eERIN2 eESH2 eGA eGAL eGAN2 TENU eGAR fPLUS SHA3 PLUS A eGI
    eGIR2 eGISH fCROSSING GISH fPLUS SAR eGU eGUD eGUR7 eHI TIMES ASH2 eIGI eIM eKA eKAK eKI
    eKID eLI eLU eLUM eME fPLUS DU gGI gTE eMI fPLUS NUNUZ eNE eNUN ePA ePI eRU eSA eSAR eSHA
    eSHE eSHID eSHU eSHUL eSIG eSUHUR eTAR eTU eU fU U eU2 eUD eUMUM TIMES PA eUR eUR2 eUSH eZI
    cKA2 dCROSSING KA2 cKAB cKAD2 cKAD3 cKAD4 cKAD5 dOVER KAD5 cKAK dTIMES IGI GUNU cKAL
    dCROSSING KAL dTIMES BAD cKAM2 cKAM4 cKAP ELAMITE cKASKAL dLAGAB TIMES U OVER LAGAB TIMES U
    dOVER KASKAL LAGAB TIMES U OVER LAGAB TIMES U cKESH2 cKI dTIMES BAD eU eUD cKID cKIN cKISAL
    cKISH cKISIM5 dOVER KISIM5 cKU dOVER HI TIMES ASH2 KU OVER HI TIMES ASH2 cKU3 cKU4 dVARIANT
    FORM cKU7 cKUL dGUNU cKUN cKUR dOPPOSING KUR cKUSHU2 cKWU318 cLA cLAGAB dSQUARED dTIMES A
    fPLUS DA PLUS HA gGAR gLAL eAL eAN eASH ZIDA TENU eBAD eBI eDAR eEN eGA eGAR eGI eGUD fPLUS
    GUD eHA eHAL eHI TIMES NUN eIGI GUNU eIM fPLUS HA gLU eKI eKIN eKU3 eKUL fPLUS HI PLUS A
    eLAGAB eLISH eLU eLUL eME fPLUS EN eMUSH eNE eSHE PLUS SUM eSHITA PLUS GISH PLUS ERIN2 hTENU
    eSHU2 fPLUS SHU2 eSUM eTAG eTAK4 eTE PLUS A PLUS SU PLUS NA eU fPLUS A gU PLUS U eU2 PLUS
    ASH eUD eUSH eZU OVER ZU cLAGAR dGUNU eOVER LAGAR GUNU SHE dTIMES SHE fPLUS SUM cLAHSHU
    cLAK-003 cLAK-021 cLAK-025 cLAK-030 cLAK-050 cLAK-051 cLAK-062 cLAK-079 OVER LAK-079 GUNU
    cLAK-080 cLAK-081 OVER LAK-081 cLAK-092 cLAK-130 cLAK-142 cLAK-210 cLAK-219 cLAK-220
    cLAK-225 cLAK-228 cLAK-238 cLAK-265 cLAK-266 cLAK-343 cLAK-347 cLAK-348 cLAK-383 cLAK-384
    cLAK-390 cLAK-441 cLAK-449 dTIMES GU eIGI ePAP PLUS LU3 gPAP PLUS LU3 eU2 PLUS BA cLAK-450
    cLAK-457 cLAK-470 cLAK-483 cLAK-490 cLAK-492 cLAK-493 cLAK-495 cLAK-550 cLAK-608 cLAK-617
    dTIMES ASH eBAD eDUN3 GUNU GUNU eKU3 eLA eTAR eTE eU2 eUD eURUDA cLAK-636 cLAK-648 dTIMES
    DUB eGA eIGI fGUNU eNI ePAP PLUS PAP PLUS LU3 eSHESH PLUS KI eUD eURUDA cLAK-724 cLAK-749
    cLAL dTIMES LAL cLAM dTIMES KUR fPLUS RU cLI cLIL cLIMMU2 cLISH cLU dTIMES BAD cLU2
    dCROSSING LU2 dGUNU TIMES ASH dOPPOSING LU2 dSHESHIG eTIMES BAD dSQUARED dTENU dTIMES AL
    eBAD eDISH eESH2 fPLUS LAL fTENU eGAN2 TENU eHAL eHI TIMES BAD eIM eKAD2 eKAD3 fPLUS ASH eKI
    eLA PLUS ASH eLAGAB eME PLUS EN eNE eNU ePAP fPLUS PAP PLUS LU3 eSHU eSI PLUS ASH eSIK2 PLUS
    BU eTAK4 eTUG2 cLU3 cLUGAL dOPPOSING LUGAL dOVER LUGAL dSHESHIG cLUH cLUL cLUM dOVER LUM
    fGAR OVER GAR cMA dGUNU dTIMES TAK4 cMA2 cMAH cMAR cMASH cMASH2 cME cMES cMESH cMI dPLUS ZA7
    cMIN cMU dOVER MU cMUG dGUNU cMUNSUB cMURGU2 cMUSH dCROSSING MUSH dOVER MUSH fTIMES A PLUS
    NA gGA gKAK dTIMES A eKUR eZA cMUSH3 dGUNU dTIMES A fPLUS DI eDI eZA cNA cNA2 cNA4 cNAGA
    dINVERTED dOPPOSING NAGA dTIMES SHU TENU cNAGAR cNAM dNUTILLU cNAM2 cNE dSHESHIG dTIMES A
    eUD cNI dTIMES E cNI2 cNIM dTIMES GAN2 TENU eGAR PLUS GAN2 TENU cNIN cNIN9 cNINDA2 dTIMES AN
    eASH fPLUS ASH eBAL eDIM GUNU eGI eGISH eGUD eGUL eHI eKESH2 eLAK-050 eMASH eME PLUS GAN2
    TENU eNE eNUN ePAP PLUS PAP eSHE fPLUS A AN gASH hPLUS ASH eU fPLUS U eU2 PLUS ASH eURUDA
    eUSH cNISAG cNU cNU11 dOVER NU11 BUR OVER BUR dROTATED NINETY DEGREES dTENU cNUN dCROSSING
    NUN fLAGAR OVER LAGAR dLAGAR TIMES GAR fMASH fSAL gOVER NUN LAGAR TIMES SAL fUSH dOVER NUN
    dTENU cNUNUZ dAB2 TIMES ASHGAB fBI fDUG fGUD fIGI GUNU fKAD3 fLA fNE fSILA3 fU2 dKISIM5
    TIMES BI gU cPA cPAD cPAN cPAP cPESH2 dASTERISK cPI dCROSSING PI dTIMES A eAB eBI eBU eE eI
    eIB eU eU2 cPIR2 cPIRIG dOPPOSING PIRIG dTIMES KAL eUD eZA cRA cRAB cRI cRU cSA cSAG dGUNU
    eTIMES HA dNUTILLU dOVER SAG dTIMES A eDU eDUB eEN eHA eIGI GUNU eKAK eKUR eLUM eMI eNUN
    eSAL eSHE AT LEFT eSHID eTAB eTAK4 eU2 eUB eUM eUR eUSH cSAL dLAGAB TIMES ASH2 cSANGA2 cSAR
    cSHA cSHA3 dTIMES A eBAD eGISH eNE eSHU2 eTUR eU fPLUS A cSHA6 dTENU cSHAB6 cSHAR2 cSHE dHU
    dOVER SHE fGAD OVER GAD GAR OVER GAR fTAB OVER TAB GAR OVER GAR dPLUS HUB2 eNAM2 eSAR cSHEG9
    cSHEN cSHESH cSHESH2 cSHESHLAM cSHID dTIMES A eIM cSHIM dTIMES A eBAL eBULUG eDIN eGAR eIGI
    fGUNU eKUSHU2 eLUL eMUG eSAL cSHINIG cSHIR dOVER SHIR BUR OVER BUR dTENU cSHITA cSHU dOVER
    INVERTED SHU cSHU2 dPLUS DUG TIMES NI eE2 TIMES AN cSHUBUR cSI dGUNU dTIMES TAK4 cSIG cSIG4
    dOVER SIG4 SHU2 cSIK2 cSILA3 cSU dOVER SU cSUD cSUD2 cSUHUR cSUM cSUMASH cSUR cSUR9 cTA
    dASTERISK dGUNU dTIMES HI eMI cTAB dOVER TAB NI OVER NI DISH OVER DISH dSQUARED cTAG dTIMES
    BI eGUD eSHE eSHU eTUG2 eUD cTAK4 dPLUS SAG cTAR cTE dGUNU cTI dTENU cTI2 cTIL cTIR dOVER
    TIR fGAD OVER GAD GAR OVER GAR dTIMES TAK4 cTU cTUG2 cTUK cTUM dTIMES GAN2 TENU eTHREE DISH
    cTUR dOVER TUR ZA OVER ZA cU dGUD dOVER U PA OVER PA GAR OVER GAR fSUR OVER SUR fU REVERSED
    OVER U REVERSED dU eU cU2 cUB cUD dGUNU dKUSHU2 dSHESHIG eTIMES BAD dTIMES BAD eMI eU PLUS U
    PLUS U jGUNU cUDUG cUM dTIMES LAGAB eME fPLUS DA eSHA3 eU cUMBIN cUMUM dTIMES KASKAL ePA cUN
    dGUNU cUR dCROSSING UR dSHESHIG cUR2 dINVERTED dTIMES A PLUS HA gNA eAL eHA eNUN eU2 fPLUS
    ASH gBI eUD cUR4 cURI cURI3 cURU dTIMES A eASHGAB eBAR eDARA3 eDUN eGA eGAL eGAN2 TENU eGAR
    eGU eHA eIGI eIM eISH eKI eLAK-668 eLU3 eLUM eMIN ePA eSHE eSIG4 eTU eU PLUS GUD eUD eURUDA
    cURUDA dTIMES U cUSH dTIMES A eKU eKUR eTAK4 cUSH2 cUSHUMX cUSHX cUTUKI cUZ3 dTIMES KASKAL
    cUZU cZA dSQUARED TIMES KUR dTENU cZA7 cZAG cZAMX cZE2 cZI dOVER ZI cZI3 cZIB dKABA TENU
    cZIG cZIZ2 cZU dOVER ZU PLUS SAR cZU5 dTIMES A eTHREE DISH TENU cZUBUR cZUM aCUP ON BLACK
    SQUARE bWITH STRAW aCUPCAKE aCUPIDO aCURLING STONE aCURLY BRACKET EXTENSION bLOGICAL AND cOR
    bLOOP aCURRENCY EXCHANGE bSIGN aCURRY AND RICE aCURVED STEM PARAGRAPH SIGN ORNAMENT aCUSTARD
    aCUSTOMS aCUT OF MEAT aCYCLONE aCYLINDRICITY aCYPRIOT SYLLABLE A cE cI cJA cJO cKA cKE cKI
    cKO cKU cLA cLE cLI cLO cLU cMA cME cMI cMO cMU cNA cNE cNI cNO cNU cO cPA cPE cPI cPO cPU
    cRA cRE cRI cRO cRU cSA cSE cSI cSO cSU cTA cTE cTI cTO cTU cU cWA cWE cWI cWO cXA cXE cZA
    cZO aCYPRO-MINOAN SIGN CM001 cCM002 cCM004 cCM005 cCM006 cCM007 cCM008 cCM009 cCM010 cCM011
    cCM012 cCM012B cCM013 cCM015 cCM017 cCM019 cCM021 cCM023 cCM024 cCM025 cCM026 cCM027 cCM028
    cCM029 cCM030 cCM033 cCM034 cCM035 cCM036 cCM037 cCM038 cCM039 cCM040 cCM041 cCM044 cCM046
    cCM047 cCM049 cCM050 cCM051 cCM052 cCM053 cCM054 cCM055 cCM056 cCM058 cCM059 cCM060 cCM061
    cCM062 cCM063 cCM064 cCM066 cCM067 cCM068 cCM069 cCM070 cCM071 cCM072 cCM073 cCM074 cCM075
    cCM075B cCM076 cCM078 cCM079 cCM080 cCM081 cCM082 cCM083 cCM084 cCM085 cCM086 cCM087 cCM088
    cCM089 cCM090 cCM091 cCM092 cCM094 cCM095 cCM096 cCM097 cCM098 cCM099 cCM100 cCM101 cCM102
    cCM103 cCM104 cCM105 cCM107 cCM108 cCM109 cCM110 cCM112 cCM114 cCM301 cCM302 aCYRILLIC
    CAPITAL LETTER A eWITH BREVE fDIAERESIS dABKHASIAN CHE fWITH DESCENDER eDZE eHA dALEUT KA
    dBARRED O fWITH DIAERESIS dBASHKIR KA dBE dBIG YUS dBINOCULAR O dBLENDED YUS dBROAD OMEGA
    dBYELORUSSIAN-UKRAINIAN I dCCHE dCHE eWITH DESCENDER fDIAERESIS fVERTICAL STROKE dCLOSED
    LITTLE YUS dCROSSED O dDCHE dDE dDJE dDJERV dDOUBLE MONOCULAR O eO dDWE dDZE dDZELO dDZHE
    dDZWE dDZZE dDZZHE dE eWITH DIAERESIS dEF dEL eWITH DESCENDER fHOOK fMIDDLE HOOK fTAIL dEM
    eWITH TAIL dEN eWITH DESCENDER fHOOK fLEFT HOOK fMIDDLE HOOK fTAIL dER eWITH TICK dES eWITH
    DESCENDER dFITA dGHE eWITH DESCENDER fMIDDLE HOOK fSTROKE gAND HOOK fUPTURN dGJE dHA eWITH
    DESCENDER fHOOK fSTROKE dHARD SIGN dHWE dI eWITH DIAERESIS fGRAVE fMACRON dIE eWITH BREVE
    fGRAVE dIO dIOTA dIOTIFIED A eBIG YUS eCLOSED LITTLE YUS eE eLITTLE YUS eYAT dIZHITSA eWITH
    DOUBLE GRAVE ACCENT dJE dKA eWITH DESCENDER fHOOK fSTROKE fVERTICAL STROKE dKHAKASSIAN CHE
    dKJE dKOMI DE eDJE eDZJE eLJE eNJE eSJE eTJE eZJE dKOPPA dKSI dLHA dLITTLE YUS dLJE
    dMONOCULAR O dMONOGRAPH UK dNEUTRAL YER dNJE dO eWITH DIAERESIS dOMEGA eWITH TITLO dOT dPE
    eWITH DESCENDER fMIDDLE HOOK dPSI dQA dREVERSED DZE eTSE eYU eZE dRHA dROUND OMEGA dSCHWA
    eWITH DIAERESIS dSEMISOFT SIGN dSHA dSHCHA dSHHA eWITH DESCENDER dSHORT I fWITH TAIL eU
    dSHWE dSOFT DE eEL eEM eSIGN dSTRAIGHT U fWITH STROKE dTCHE dTE eWITH DESCENDER fMIDDLE HOOK
    dTSE dTSHE dTSSE dTSWE dTWE dU eWITH DIAERESIS fDOUBLE ACUTE fMACRON dUK dUKRAINIAN IE dVE
    dWE dYA dYAE dYAT dYERU eWITH BACK YER fDIAERESIS dYI dYN dYU dZE eWITH DESCENDER fDIAERESIS
    dZEMLYA dZHE eWITH BREVE fDESCENDER fDIAERESIS dZHWE cLIGATURE A IE dEN GHE dTE TSE bKAVYKA
    bLETTER MULTIOCULAR O cPALOCHKA cSMALL CAPITAL EL bPAYEROK bSMALL LETTER A eWITH BREVE
    fDIAERESIS dABKHASIAN CHE fWITH DESCENDER eDZE eHA dALEUT KA dBARRED O fWITH DIAERESIS
    dBASHKIR KA dBE dBIG YUS dBINOCULAR O dBLENDED YUS dBROAD OMEGA dBYELORUSSIAN-UKRAINIAN I
    dCCHE dCHE eWITH DESCENDER fDIAERESIS fVERTICAL STROKE dCLOSED LITTLE YUS dCROSSED O dDCHE
    dDE dDJE dDJERV dDOUBLE MONOCULAR O eO dDWE dDZE dDZELO dDZHE dDZWE dDZZE dDZZHE dE eWITH
    DIAERESIS dEF dEL eWITH DESCENDER fHOOK fMIDDLE HOOK fTAIL dEM eWITH TAIL dEN eWITH
    DESCENDER fHOOK fLEFT HOOK fMIDDLE HOOK fTAIL dER eWITH TICK dES eWITH DESCENDER dFITA dGHE
    eWITH DESCENDER fMIDDLE HOOK fSTROKE gAND HOOK fUPTURN dGJE dHA eWITH DESCENDER fHOOK
    fSTROKE dHARD SIGN dHWE dI eWITH DIAERESIS fGRAVE fMACRON dIE eWITH BREVE fGRAVE dIO dIOTA
    dIOTIFIED A eBIG YUS eCLOSED LITTLE YUS eE eLITTLE YUS eYAT dIZHITSA eWITH DOUBLE GRAVE
    ACCENT dJE dKA eWITH DESCENDER fHOOK fSTROKE fVERTICAL STROKE dKHAKASSIAN CHE dKJE dKOMI DE
    eDJE eDZJE eLJE eNJE eSJE eTJE eZJE dKOPPA dKSI dLHA dLITTLE YUS dLJE dLONG-LEGGED DE
    dMONOCULAR O dMONOGRAPH UK dNARROW O dNEUTRAL YER dNJE dO eWITH DIAERESIS dOMEGA eWITH TITLO
    dOT dPALOCHKA dPE eWITH DESCENDER fMIDDLE HOOK dPSI dQA dREVERSED DZE eTSE eYU eZE dRHA
    dROUND OMEGA dROUNDED VE dSCHWA eWITH DIAERESIS dSEMISOFT SIGN dSHA dSHCHA dSHHA eWITH
    DESCENDER dSHORT I fWITH TAIL eU dSHWE dSOFT DE eEL eEM eSIGN dSTRAIGHT U fWITH STROKE dTALL
    HARD SIGN eTE eYAT dTCHE dTE eWITH DESCENDER fMIDDLE HOOK dTHREE-LEGGED TE dTSE dTSHE dTSSE
    dTSWE dTWE dU eWITH DIAERESIS fDOUBLE ACUTE fMACRON dUK dUKRAINIAN IE dUNBLENDED UK dVE dWE
    dWIDE ES dYA dYAE dYAT dYERU eWITH BACK YER fDIAERESIS dYI dYN dYU dZE eWITH DESCENDER
    fDIAERESIS dZEMLYA dZHE eWITH BREVE fDESCENDER fDIAERESIS dZHWE cLIGATURE A IE dEN GHE dTE
    TSE bTHOUSANDS SIGN aDAGGER bKNIFE bWITH LEFT GUARD cRIGHT GUARD aDALET SYMBOL aDANCER
    aDANGO aDARK SHADE bSUNGLASSES aDASH SYMBOL bWITH LEFT UPTURN aDASHED LOW LINE bOVERLINE
    bTRIANGLE-HEADED RIGHTWARDS ARROW aDATA LINK ESCAPE aDC1 aDC2 aDC3 aDC4 aDCS aDEAF PERSON
    aDECIDUOUS TREE aDECIMAL EXPONENT SYMBOL bSEPARATOR KEY SYMBOL aDECREASE FONT SIZE SYMBOL
    aDEER aDEGREE CELSIUS bFAHRENHEIT bSIGN aDEL aDELETE aDELIVERY TRUCK aDELTA EQUAL TO
    aDENTISTRY SYMBOL LIGHT DOWN AND HORIZONTAL gWITH CIRCLE hTRIANGLE hWAVE dUP AND HORIZONTAL
    gWITH CIRCLE hTRIANGLE hWAVE dVERTICAL AND BOTTOM LEFT gRIGHT fTOP LEFT gRIGHT fWAVE eWITH
    CIRCLE fTRIANGLE aDEPARTMENT STORE aDERELICT HOUSE BUILDING aDESCENDING NODE aDESERET
    CAPITAL LETTER AY dBEE dCHEE dDEE dEF dEL dEM dEN dENG dER dES dESH dETH dEW dGAY dH dJEE
    dKAY dLONG A eAH eE eI eO eOO dOI dOW dPEE dSHORT A eAH eE eI eO eOO dTEE dTHEE dVEE dWU
    dYEE dZEE dZHEE bSMALL LETTER AY dBEE dCHEE dDEE dEF dEL dEM dEN dENG dER dES dESH dETH dEW
    dGAY dH dJEE dKAY dLONG A eAH eE eI eO eOO dOI dOW dPEE dSHORT A eAH eE eI eO eOO dTEE dTHEE
    dVEE dWU dYEE dZEE dZHEE aDESERT bISLAND aDESKTOP COMPUTER bWINDOW aDEVANAGARI ABBREVIATION
    SIGN bACUTE ACCENT bCARET bDANDA bDIGIT EIGHT cFIVE cFOUR cNINE cONE cSEVEN cSIX cTHREE cTWO
    cZERO bDOUBLE DANDA bGAP FILLER bGRAVE ACCENT bHEADSTROKE bJAIN OM bLETTER A cAA cAI cAU cAW
    cAY cBA cBBA cBHA cCA cCANDRA A dE dO cCHA cDA cDDA cDDDA cDDDHA cDDHA cDHA cE cFA cGA cGGA
    cGHA cGHHA cGLOTTAL STOP cHA cHEAVY YA cI cII cJA cJHA cJJA cKA cKHA cKHHA cLA cLLA cLLLA
    cMA cMARWARI DDA cNA cNGA cNNA cNNNA cNYA cO cOE cOOE cPA cPHA cQA cRA cRHA cRRA cSA cSHA
    cSHORT A dE dO cSSA cTA cTHA cTTA cTTHA cU cUE cUU cUUE cVA cVOCALIC L dLL dR dRR cYA cYYA
    cZA cZHA bOM bSIGN ANUSVARA cAVAGRAHA cCANDRABINDU dAVAGRAHA dTHREE dTWO dVIRAMA cDOUBLE
    CANDRABINDU VIRAMA cHIGH SPACING DOT cINVERTED CANDRABINDU cNUKTA cPUSHPIKA cSIDDHAM
    cSPACING CANDRABINDU cVIRAMA cVISARGA bSTRESS SIGN ANUDATTA dUDATTA bVOWEL SIGN AA dAI dAU
    dAW dAY dCANDRA E eLONG E eO dE dI dII dO dOE dOOE dPRISHTHAMATRA E dSHORT E eO dU dUE dUU
    dUUE dVOCALIC L eLL eR eRR aDEVICE CONTROL FOUR cONE cSTRING cTHREE cTWO aDIAERESIS
    aDIAMETER SIGN aDIAMOND OPERATOR bSHAPE WITH A DOT INSIDE bTARGET bWITH BOTTOM HALF BLACK
    cLEFT HALF BLACK cRIGHT HALF BLACK cTOP HALF BLACK aDIE FACE-1 bFACE-2 bFACE-3 bFACE-4
    bFACE-5 bFACE-6 aDIESEL LOCOMOTIVE aDIFFERENCE BETWEEN aDIGIT EIGHT cCOMMA cFULL STOP bFIVE
    cCOMMA cFULL STOP bFOUR cCOMMA cFULL STOP bNINE cCOMMA cFULL STOP bONE cCOMMA cFULL STOP
    bSEVEN cCOMMA cFULL STOP bSIX cCOMMA cFULL STOP bTHREE cCOMMA cFULL STOP bTWO cCOMMA cFULL
    STOP bZERO cCOMMA cFULL STOP aDIGRAM FOR EARTH cEARTHLY HEAVEN dHUMAN cGREATER YANG dYIN
    cHEAVENLY EARTH cHUMAN EARTH cLESSER YANG dYIN aDIMENSION ORIGIN aDINGBAT CIRCLED SANS-SERIF
    DIGIT EIGHT eFIVE eFOUR eNINE eONE eSEVEN eSIX eTHREE eTWO eZERO dNUMBER TEN bNEGATIVE
    CIRCLED DIGIT EIGHT eFIVE eFOUR eNINE eONE eSEVEN eSIX eTHREE eTWO dNUMBER TEN dSANS-SERIF
    DIGIT EIGHT fFIVE fFOUR fNINE fONE fSEVEN fSIX fTHREE fTWO fZERO eNUMBER TEN aDIRECT CURRENT
    SYMBOL FORM TWO bHIT aDISABLED CAR aDISAPPOINTED BUT RELIEVED FACE bFACE aDISCONTINUOUS
    UNDERLINE SYMBOL aDISGUISED FACE aDITTO MARK aDIVES AKURU DIGIT EIGHT dFIVE dFOUR dNINE dONE
    dSEVEN dSIX dTHREE dTWO dZERO cDOUBLE DANDA cEND OF TEXT MARK cGAP FILLER cINITIAL RA
    cLETTER A dAA dBA dBHA dCA dCHA dDA dDDA dDDHA dDHA dE dGA dGHA dHA dI dII dJA dKA dKHA dLA
    dLLA dMA dNA dNGA dNNA dNYA dO dPA dPHA dRA dSA dSHA dSSA dTA dTHA dTTA dU dUU dVA dYA dYYA
    dZA cMEDIAL RA dYA cPREFIXED NASAL SIGN cSIGN ANUSVARA dCANDRABINDU dHALANTA dNUKTA cVIRAMA
    cVOWEL SIGN AA eAI eE eI eII eO eU eUU aDIVIDES aDIVING MASK aDIVISION SIGN bSLASH bTIMES
    aDIVORCE SYMBOL aDIYA LAMP aDIZZY FACE bSYMBOL aDLE aDNA DOUBLE HELIX aDO NOT LITTER SYMBOL
    aDOCUMENT bWITH PICTURE cTEXT dAND PICTURE aDODO aDOES NOT CONTAIN AS MEMBER eNORMAL
    SUBGROUP gOR EQUAL cDIVIDE dWITH REVERSED NEGATION SLASH cFORCE cPRECEDE dOR EQUAL cPROVE
    cSUCCEED dOR EQUAL aDOG bFACE aDOGRA ABBREVIATION SIGN bLETTER A cAA cAI cAU cBA cBHA cCA
    cCHA cDA cDDA cDDHA cDHA cE cGA cGHA cHA cI cII cJA cJHA cKA cKHA cLA cMA cNA cNGA cNNA cNYA
    cO cPA cPHA cRA cRRA cSA cSHA cSSA cTA cTHA cTTA cTTHA cU cUU cVA cYA bSIGN ANUSVARA cNUKTA
    cVIRAMA cVISARGA bVOWEL SIGN AA dAI dAU dE dI dII dO dU dUU dVOCALIC R eRR aDOLLAR SIGN
    aDOLPHIN aDOMINO TILE HORIZONTAL BACK cHORIZONTAL-00-00 cHORIZONTAL-00-01 cHORIZONTAL-00-02
    cHORIZONTAL-00-03 cHORIZONTAL-00-04 cHORIZONTAL-00-05 cHORIZONTAL-00-06 cHORIZONTAL-01-00
    cHORIZONTAL-01-01 cHORIZONTAL-01-02 cHORIZONTAL-01-03 cHORIZONTAL-01-04 cHORIZONTAL-01-05
    cHORIZONTAL-01-06 cHORIZONTAL-02-00 cHORIZONTAL-02-01 cHORIZONTAL-02-02 cHORIZONTAL-02-03
    cHORIZONTAL-02-04 cHORIZONTAL-02-05 cHORIZONTAL-02-06 cHORIZONTAL-03-00 cHORIZONTAL-03-01
    cHORIZONTAL-03-02 cHORIZONTAL-03-03 cHORIZONTAL-03-04 cHORIZONTAL-03-05 cHORIZONTAL-03-06
    cHORIZONTAL-04-00 cHORIZONTAL-04-01 cHORIZONTAL-04-02 cHORIZONTAL-04-03 cHORIZONTAL-04-04
    cHORIZONTAL-04-05 cHORIZONTAL-04-06 cHORIZONTAL-05-00 cHORIZONTAL-05-01 cHORIZONTAL-05-02
    cHORIZONTAL-05-03 cHORIZONTAL-05-04 cHORIZONTAL-05-05 cHORIZONTAL-05-06 cHORIZONTAL-06-00
    cHORIZONTAL-06-01 cHORIZONTAL-06-02 cHORIZONTAL-06-03 cHORIZONTAL-06-04 cHORIZONTAL-06-05
    cHORIZONTAL-06-06 cVERTICAL BACK cVERTICAL-00-00 cVERTICAL-00-01 cVERTICAL-00-02
    cVERTICAL-00-03 cVERTICAL-00-04 cVERTICAL-00-05 cVERTICAL-00-06 cVERTICAL-01-00
    cVERTICAL-01-01 cVERTICAL-01-02 cVERTICAL-01-03 cVERTICAL-01-04 cVERTICAL-01-05
    cVERTICAL-01-06 cVERTICAL-02-00 cVERTICAL-02-01 cVERTICAL-02-02 cVERTICAL-02-03
    cVERTICAL-02-04 cVERTICAL-02-05 cVERTICAL-02-06 cVERTICAL-03-00 cVERTICAL-03-01
    cVERTICAL-03-02 cVERTICAL-03-03 cVERTICAL-03-04 cVERTICAL-03-05 cVERTICAL-03-06
    cVERTICAL-04-00 cVERTICAL-04-01 cVERTICAL-04-02 cVERTICAL-04-03 cVERTICAL-04-04
    cVERTICAL-04-05 cVERTICAL-04-06 cVERTICAL-05-00 cVERTICAL-05-01 cVERTICAL-05-02
    cVERTICAL-05-03 cVERTICAL-05-04 cVERTICAL-05-05 cVERTICAL-05-06 cVERTICAL-06-00
    cVERTICAL-06-01 cVERTICAL-06-02 cVERTICAL-06-03 cVERTICAL-06-04 cVERTICAL-06-05
    cVERTICAL-06-06 aDONG SIGN aDOOR aDOT ABOVE bMINUS bOPERATOR bPLUS aDOTTED CIRCLE bCROSS
    bFENCE bLINE FACE bOBELOS bRIGHT-POINTING ANGLE bSOLIDUS bSQUARE bTRANSPOSITION MARKER
    aDOUBLE ACUTE ACCENT bCIRCLED DIGIT EIGHT dFIVE dFOUR dNINE dONE dSEVEN dSIX dTHREE dTWO
    cNUMBER TEN bCOLON EQUAL bCURLY LOOP bDAGGER bDOWN TACK bEXCLAMATION MARK bHIGH-REVERSED-9
    QUOTATION MARK bHYPHEN bINTEGRAL bINTERSECTION bLEFT ARC GREATER-THAN BRACKET bLOGICAL AND
    cOR bLOW LINE bLOW-9 QUOTATION MARK bLOW-REVERSED-9 QUOTATION MARK bNESTED GREATER-THAN
    cLESS-THAN dWITH UNDERBAR bOBLIQUE HYPHEN bPLUS bPRECEDES bPRIME cQUOTATION MARK bQUESTION
    MARK bRIGHT ARC LESS-THAN BRACKET bSOLIDUS OPERATOR bSQUARE INTERSECTION cUNION bSTACKED
    COMMA bSTROKE NOT SIGN bSUBSET bSUCCEEDS bSUPERSET bSUSPENSION MARK bUNION bUP TACK
    bVERTICAL BAR dDOUBLE LEFT TURNSTILE eRIGHT TURNSTILE dLEFT TURNSTILE cLINE bWAVY OVERLINE
    aDOUBLE-ENDED MULTIMAP aDOUBLE-LINE EQUAL TO OR GREATER-THAN eLESS-THAN bSLANTED EQUAL TO OR
    GREATER-THAN fLESS-THAN cGREATER-THAN OR EQUAL TO cLESS-THAN OR EQUAL TO aDOUBLE-STRUCK
    CAPITAL C cGAMMA cH cN cP cPI cQ cR cZ bITALIC CAPITAL D cSMALL D dE dI dJ bN-ARY SUMMATION
    bSMALL GAMMA cPI aDOUBLED FEMALE SIGN bMALE SIGN bSYMBOL aDOUGHNUT aDOVE OF PEACE aDOWN
    ARROWHEAD bFISH TAIL bRIGHT DIAGONAL ELLIPSIS bTACK cWITH CIRCLE BELOW aDOWN-POINTING RED
    TRIANGLE bSMALL RED TRIANGLE bTRIANGLE WITH LEFT HALF BLACK dRIGHT HALF BLACK aDOWNWARD
    FACING HOOK dWITH DOT cNOTCHED HOOK eWITH DOT aDOWNWARDS ANCORA bARROW cAND RIGHT ONE EIGHTH
    BLOCK cFROM BAR cLEFTWARDS OF UPWARDS ARROW cTO BAR cWITH CORNER LEFTWARDS dDOUBLE STROKE
    dEQUILATERAL ARROWHEAD dHORIZONTAL STROKE dLARGE TRIANGLE ARROWHEAD dMEDIUM TRIANGLE
    ARROWHEAD dNOTCHED TAIL dSMALL EQUILATERAL ARROWHEAD eTRIANGLE ARROWHEAD dTIP LEFTWARDS
    eRIGHTWARDS bBLACK ARROW cCIRCLED WHITE ARROW bCOMPRESSED ARROW bDASHED ARROW bDOUBLE ARROW
    bFINGER-POST ARROW bHARPOON WITH BARB LEFT BESIDE DOWNWARDS HARPOON WITH BARB RIGHT gUPWARDS
    HARPOON WITH BARB RIGHT fFROM BAR fTO BAR eLEFTWARDS eRIGHT FROM BAR fTO BAR eRIGHTWARDS
    bHEAVY ARROW cCOMPRESSED ARROW bPAIRED ARROWS bQUADRUPLE ARROW bROCKET bSANS-SERIF ARROW
    bSQUARED ARROW bTRIANGLE ARROWHEAD bTRIANGLE-HEADED ARROW dLEFTWARDS OF UPWARDS
    TRIANGLE-HEADED ARROW dTO BAR dWITH BOLD SHAFT eDOUBLE HORIZONTAL STROKE eHEAVY SHAFT eLONG
    TIP LEFTWARDS gRIGHTWARDS eMEDIUM SHAFT eNARROW SHAFT eVERY HEAVY SHAFT cDASHED ARROW
    cPAIRED ARROWS cZIGZAG ARROW bTRIPLE ARROW bTWO HEADED ARROW bTWO-HEADED ARROW WITH TRIANGLE
    ARROWHEADS bWHITE ARROW dWITHIN TRIANGLE ARROWHEAD bZIGZAG ARROW aDRACHMA SIGN aDRAFTING
    POINT RIGHTWARDS ARROW aDRAGON bFACE aDRESS aDRIVE SLOW SIGN aDROMEDARY CAMEL aDROOLING FACE
    aDROP OF BLOOD aDROPLET aDRUM WITH DRUMSTICKS aDUCK aDUMPLING aDUPLOYAN AFFIX ATTACHED E
    HOOK dI HOOK dLEFT-TO-RIGHT SECANT dSECANT dTAIL dTANGENT eHOOK cHIGH ACUTE dCIRCLE dDOT
    dGRAVE dLINE dLONG GRAVE dTIGHT ACUTE dVERTICAL eSECANT dWAVE cLEFT HORIZONTAL SECANT cLOW
    ACUTE dARROW dCIRCLE dDOT dGRAVE dLINE dLONG GRAVE dTIGHT ACUTE dVERTICAL eSECANT dWAVE cMID
    HORIZONTAL SECANT dVERTICAL SECANT cRIGHT HORIZONTAL SECANT bDOUBLE MARK bLETTER A cAOU cB
    cD dS cDH cE cEE cEU cF dN cG dR S cH cHL cI cIE cJ dM eS dN eS dS eWITH DOT dWITH DOT eDOTS
    INSIDE AND ABOVE cK dM dR S cKK cL cLH cLONG I dU cM dN eS dS dWITH DOT cN dM eS dS dWITH
    DOT cNASAL A dI dO dU cO cOA cOOH cOU cOW cP dN cPERNIN AM dAN cR dS cRH cROMANIAN I dU cS
    dJ eS dK eR dM dN dP eR dS dT eR dWITH DOT fBELOW cSHORT I cSLOAN AN dDH dEE dEH dEN dJ dON
    dOW dU cT dR S dS cTH cU dN cUH cUI cV cVOCALIC M cW dR cWA cWEI cWH cWI cWO cWOW cX cXW cYE
    bPUNCTUATION CHINOOK FULL STOP bSIGN O WITH CROSS bTHICK LETTER SELECTOR aDVD"

end SecurityRules.CharacterName
